import LunarSched.FirstMembers
import LunarSched.SchedCluster
import Mathlib.Data.List.Dedup
import Mathlib.Data.List.Perm.Subperm
import Mathlib.Data.List.Sort

/-!
The discovery of the clusters. The possible CPUs that are the first of their topology
ids, the leaders, found one cluster each; the loop keeps what has been built for the
leaders below the current CPU. When it completes, the list is the partition of the
possible CPUs by their ids; when it gives up, what there was before it is restored.
-/
namespace LunarSched.ClusterTopology
open LunarSched.Kernel LunarSched.FirstMembers LunarSched.ListHead LunarSched.SchedCluster

section
variable {t : CpuTopology} {k cpu : ℕ}

/-- A possible CPU is the first one of its id. -/
def Leads (t : CpuTopology) (cpu : ℕ) : Prop :=
  t.possible cpu = true ∧ ∀ j < cpu, t.possible j = true → t.clusterId j ≠ t.clusterId cpu

instance : Decidable (Leads t cpu) := inferInstanceAs (Decidable (_ ∧ ∀ j < cpu, _))

def leaders (t : CpuTopology) (k : ℕ) : List ℕ := (List.range k).filter (fun i => decide (Leads t i))

/-- The distinct ids, of those that are not negative, that occur below a CPU. -/
def idsBelow (t : CpuTopology) (k : ℕ) : List ℤ :=
  (((forEachCpu k t.possible).map t.clusterId).filter (fun id => decide (0 ≤ id))).dedup

theorem mem_leaders : cpu ∈ leaders t k ↔ cpu < k ∧ Leads t cpu := by simp [leaders]

theorem leaders_succ_of_leads (leads : Leads t k) : leaders t (k + 1) = leaders t k ++ [k] := by
  simp [leaders,List.range_succ,leads]

theorem leaders_succ_of_not (not : ¬ Leads t k) : leaders t (k + 1) = leaders t k := by
  simp [leaders,List.range_succ,not]

theorem leaders_mono {m : ℕ} (le : k ≤ m) : (leaders t k).length ≤ (leaders t m).length := by
  obtain ⟨d,rfl⟩ := Nat.exists_eq_add_of_le le
  rw [leaders,leaders,List.range_add,List.filter_append,List.length_append]
  exact Nat.le_add_right _ _

theorem leads_of_least (possible : t.possible cpu = true) :
    ∃ i ≤ cpu, Leads t i ∧ t.clusterId i = t.clusterId cpu :=
  exists_first possible

theorem leaders_pairwise : (leaders t k).Pairwise (fun i j => t.clusterId i ≠ t.clusterId j) :=
  firsts_pairwise (List.pairwise_lt_range.filter _) (fun _ leader => (mem_leaders.mp leader).2)

theorem known_of_valid (valid : ∀ cpu, t.possible cpu = true → 0 ≤ t.clusterId cpu) (possible : t.possible cpu = true) :
    t.clusterId cpu ≠ -1 := by
  have := valid cpu possible
  omega

/-- There are no more leaders than ids. -/
theorem leaders_length_le (known : ∀ cpu < k, t.possible cpu = true → t.clusterId cpu ≠ -1) :
    (leaders t k).length ≤ (idsBelow t k).length := by
  have distinct : ((leaders t k).map t.clusterId).Nodup := List.pairwise_map.mpr leaders_pairwise
  have inside : (leaders t k).map t.clusterId ⊆ idsBelow t k := by
    intro id member
    obtain ⟨cpu,leader,rfl⟩ := List.mem_map.mp member
    obtain ⟨below,possible,_⟩ := mem_leaders.mp leader
    have low := t.known cpu
    have set := known cpu below possible
    rw [idsBelow,List.mem_dedup,List.mem_filter]
    exact ⟨List.mem_map_of_mem (mem_forEachCpu.mpr ⟨below,possible⟩),by rw [decide_eq_true_eq]; omega⟩
  simpa using (List.Nodup.subperm distinct inside).length_le

theorem siblings_first (leads : Leads t cpu) (known : t.clusterId cpu ≠ -1) :
    cpumaskFirst t.nrCpuIds (getPossibleSiblings t cpu) = cpu := by
  refine cpumaskFirst_eq (t.bounded cpu leads.1).le (fun _ => (mem_possibleSiblings known).mpr ⟨leads.1,rfl⟩) ?_
  intro other lower
  rw [Bool.eq_false_iff]
  intro member
  obtain ⟨possible,same⟩ := (mem_possibleSiblings known).mp member
  exact leads.2 other lower possible same.symm

end

/-- Four CPUs, each with more capacity than the one before. -/
def fourCpus (ids : ℕ → ℤ) (known : ∀ cpu, -1 ≤ ids cpu) : CpuTopology where
  nrCpuIds := 4
  possible := fun cpu => decide (cpu < 4)
  clusterId := ids
  capacity := fun cpu => 100 * (cpu + 1)
  bounded := fun _ possible => of_decide_eq_true possible
  boot := ⟨0,rfl⟩
  known := known

/-- Every CPU is a cluster of its own. -/
def fourClusters : CpuTopology := fourCpus (fun cpu => cpu) (fun cpu => by omega)

theorem fourClusters_valid (cpu : ℕ) : 0 ≤ fourClusters.clusterId cpu := Int.natCast_nonneg cpu

section
variable {t : CpuTopology} {k : ℕ} {cpus : Cpumask} {s : Clusters} {ys : List ClusterPtr}

/-- What has been built when the loop is at CPU `k`, with the CPUs that are left and the
    clusters in the order of the list. -/
structure Building (t : CpuTopology) (k : ℕ) (cpus : Cpumask) (s : Clusters) (ys : List ClusterPtr) : Prop where
  ring : Ring s.links .newHead ys
  fallback : Ring s.links .lseClusterHead [.initCluster]
  static : s.cluster .initCluster = { initClusterStatic with cpus := t.possible }
  listed : ys.Perm ((List.range s.allocated).map ClusterPtr.alloc)
  built : (ys.map s.cluster).Perm ((leaders t k).map (fun i => newCluster t (getPossibleSiblings t i)))
  sorted : ys.Pairwise (fun c d => capacityOf t (s.cluster c).cpus ≤ capacityOf t (s.cluster d).cpus)
  count : s.numSchedClusters = s.allocated
  kept : s.freed = []
  left : ∀ cpu, cpus cpu = true ↔
    t.possible cpu = true ∧ ∀ j < k, t.possible j = true → t.clusterId j ≠ t.clusterId cpu
  unowned : ∀ cpu, cpus cpu = true → s.rqCluster cpu = .initCluster
  owned : ∀ cpu, t.possible cpu = true → cpus cpu = false →
    s.rqCluster cpu ∈ ys ∧ (s.cluster (s.rqCluster cpu)).cpus cpu = true
  domain : ∀ cpu, t.possible cpu = true → s.freqDomain cpu = fun other => other == cpu

theorem building_alloc (building : Building t k cpus s ys) {c : ClusterPtr} (member : c ∈ ys) :
    ∃ n < s.allocated, c = .alloc n := by
  obtain ⟨n,below,rfl⟩ := List.mem_map.mp (building.listed.subset member)
  exact ⟨n,List.mem_range.mp below,rfl⟩

theorem building_length (building : Building t k cpus s ys) :
    ys.length = s.allocated ∧ ys.length = (leaders t k).length := by
  have listed := building.listed.length_eq
  have built := building.built.length_eq
  simp only [List.length_map,List.length_range] at listed built
  exact ⟨listed,built⟩

/-- The next cluster that is allocated is not on the list. -/
theorem building_fresh (building : Building t k cpus s ys) : ClusterPtr.alloc s.allocated ∉ .newHead :: ys := by
  intro member
  rcases List.mem_cons.mp member with same | inside
  · cases same
  · obtain ⟨n,below,same⟩ := building_alloc building inside
    cases same
    exact absurd below (lt_irrefl _)

/-- The nodes of the other list are not on it, either. -/
theorem building_away (building : Building t k cpus s ys) {n : ClusterPtr}
    (member : n ∈ [ClusterPtr.lseClusterHead,.initCluster]) : n ∉ .newHead :: ys ∧ ∀ m, n ≠ .alloc m := by
  have other : ∀ m, n ≠ .alloc m := by
    rintro m rfl
    simp at member
  refine ⟨fun inside => ?_,other⟩
  rcases List.mem_cons.mp inside with rfl | inside
  · simp at member
  · obtain ⟨m,_,same⟩ := building_alloc building inside
    exact other m same

/-- The cluster of a list belongs to a leader. -/
theorem building_leader (building : Building t k cpus s ys) {c : ClusterPtr} (member : c ∈ ys) :
    ∃ i ∈ leaders t k, s.cluster c = newCluster t (getPossibleSiblings t i) := by
  have inside := building.built.subset (List.mem_map_of_mem (f := s.cluster) member)
  obtain ⟨i,leader,same⟩ := List.mem_map.mp inside
  exact ⟨i,leader,same.symm⟩

/-- The CPU is possible and has no cluster yet exactly when it leads. -/
theorem building_next (building : Building t k cpus s ys) : cpus k = true ↔ Leads t k := building.left k

theorem building_skip (building : Building t k cpus s ys) (skipped : cpus k = false) : Building t (k + 1) cpus s ys := by
  have not : ¬ Leads t k := fun leads => absurd ((building_next building).mpr leads) (by simp [skipped])
  refine { building with built := leaders_succ_of_not not ▸ building.built, left := ?_ }
  exact fun cpu => (building.left cpu).trans (left_skip (fun i => t.possible i = true) t.clusterId not)

/-- A list that is sorted stays so when an element is put before the first greater one. -/
theorem pairwise_insert {α : Type*} (key : α → ℕ) {us vs : List α} {new : α}
    (sorted : (us ++ vs).Pairwise (fun c d => key c ≤ key d)) (before : ∀ c ∈ us, key c ≤ key new)
    (after : ∀ c ∈ vs.head?, key new < key c) : (us ++ new :: vs).Pairwise (fun c d => key c ≤ key d) := by
  obtain ⟨first,second,across⟩ := List.pairwise_append.mp sorted
  have above : ∀ d ∈ vs, key new ≤ key d := by
    intro d member
    cases vs with
    | nil => simp at member
    | cons v vs =>
      have less := after v rfl
      rcases List.mem_cons.mp member with rfl | later
      · exact less.le
      · exact less.le.trans ((List.pairwise_cons.mp second).1 d later)
  refine List.pairwise_append.mpr ⟨first,List.pairwise_cons.mpr ⟨above,second⟩,?_⟩
  intro c inside d member
  rcases List.mem_cons.mp member with rfl | later
  · exact before c inside
  · exact across c inside d later

/-- A cluster that is added takes its place in the order of the list. -/
theorem added_list {head : ClusterPtr} {s' : Clusters} (added : Added t s cpus head ys s')
    (fresh : .alloc s.allocated ∉ head :: ys)
    (sorted : ys.Pairwise (fun c d => capacityOf t (s.cluster c).cpus ≤ capacityOf t (s.cluster d).cpus)) :
    ∃ ys', Ring s'.links head ys' ∧ ys'.Perm (ys ++ [.alloc s.allocated]) ∧
      ys'.Pairwise (fun c d => capacityOf t (s'.cluster c).cpus ≤ capacityOf t (s'.cluster d).cpus) := by
  obtain ⟨us,vs,rfl,ring,before,after⟩ := added.ring
  obtain ⟨own,same⟩ := added_cluster added
  have old : ∀ c ∈ us ++ vs, s'.cluster c = s.cluster c :=
    fun c member => same c (ne_of_mem_of_not_mem (List.mem_cons_of_mem _ member) fresh)
  refine ⟨_,ring,List.perm_middle.trans (List.perm_append_singleton _ _).symm,?_⟩
  refine pairwise_insert (fun c => capacityOf t (s'.cluster c).cpus) (sorted.imp_of_mem ?_) ?_ ?_
  · intro c d inside later le
    rw [old c inside,old d later]
    exact le
  · intro c inside
    rw [old c (List.mem_append_left _ inside),own]
    exact before c inside
  · intro c first
    rw [old c (List.mem_append_right _ (List.mem_of_mem_head? first)),own]
    exact after c first

theorem building_add (building : Building t k cpus s ys) (leads : cpus k = true) (known : t.clusterId k ≠ -1)
    (few : (leaders t (k + 1)).length ≤ 4) :
    ∃ s' ys', addCluster t s (getPossibleSiblings t k) .newHead = some s' ∧
      Building t (k + 1) (fun cpu => cpus cpu && !getPossibleSiblings t k cpu) s' ys' := by
  have leader := (building_next building).mp leads
  have succ := leaders_succ_of_leads leader
  have fresh := building_fresh building
  obtain ⟨all,each⟩ := building_length building
  have room : s.numSchedClusters < maxLseClusters := by
    rw [succ,List.length_append,List.length_singleton] at few
    rw [building.count,maxLseClusters]
    omega
  obtain ⟨s',added,spec⟩ : ∃ s', addCluster t s (getPossibleSiblings t k) .newHead = some s' ∧
    Added t s (getPossibleSiblings t k) .newHead ys s' := addCluster_added building.ring all.le fresh room
  obtain ⟨ys',ring,perm,sorted⟩ := added_list spec fresh building.sorted
  obtain ⟨own,same⟩ := added_cluster spec
  have old : ∀ c ∈ ys, s'.cluster c = s.cluster c :=
    fun c member => same c (ne_of_mem_of_not_mem (List.mem_cons_of_mem _ member) fresh)
  have fallback : Ring s'.links .lseClusterHead [.initCluster] := ring_congr building.fallback (fun n member =>
    have ⟨outside,away⟩ := building_away building member
    spec.apart n outside (away _))
  refine ⟨s',ys',added,{ ring := ring, fallback := fallback, static := ?_, listed := ?_, built := ?_, sorted := sorted
                         count := ?_, kept := spec.freed.trans building.kept, left := ?_, unowned := ?_, owned := ?_
                         domain := spec.freqDomain ▸ building.domain }⟩
  · exact (same _ (by simp)).trans building.static
  · rw [spec.allocated,List.range_succ,List.map_append]
    exact perm.trans (building.listed.append_right _)
  · rw [succ]
    refine (perm.map s'.cluster).trans ?_
    rw [List.map_append,List.map_congr_left old,List.map_singleton,own]
    simpa only [List.map_append,List.map_singleton] using
      building.built.append_right [newCluster t (getPossibleSiblings t k)]
  · rw [spec.numSchedClusters,spec.allocated,building.count]
    push_cast
    rfl
  · intro cpu
    rw [Bool.and_eq_true,building.left cpu,Bool.not_eq_true',Bool.eq_false_iff,Ne,mem_possibleSiblings known]
    exact left_take (fun i => t.possible i = true) t.clusterId leader.1 (fun possible => and_iff_right possible)
  · intro cpu remains
    rw [Bool.and_eq_true,Bool.not_eq_true'] at remains
    rw [spec.rqCluster]
    simp only [remains.2,Bool.false_eq_true,if_false]
    exact building.unowned cpu remains.1
  · intro cpu possible gone
    rw [spec.rqCluster]
    by_cases sibling : getPossibleSiblings t k cpu = true
    · simp only [sibling,if_true]
      exact ⟨perm.mem_iff.mpr (by simp),by rw [own]; exact sibling⟩
    · have before : cpus cpu = false := by simpa [Bool.eq_false_iff.mpr sibling] using gone
      obtain ⟨member,inside⟩ := building.owned cpu possible before
      simp only [if_neg sibling]
      rw [old _ member]
      exact ⟨perm.mem_iff.mpr (List.mem_append_left _ member),inside⟩

/-- The loop over CPUs whose ids are known builds what belongs to their leaders. -/
theorem discover_building : ∀ {m k : ℕ} {cpus : Cpumask} {s : Clusters} {ys : List ClusterPtr} (rest : List ℕ),
    Building t k cpus s ys → (∀ cpu < k + m, t.possible cpu = true → t.clusterId cpu ≠ -1) →
    (leaders t (k + m)).length ≤ 4 → ∃ cpus' s' ys', Building t (k + m) cpus' s' ys' ∧
      discover t (List.range' k m ++ rest) cpus s = discover t rest cpus' s' := by
  intro m
  induction m with
  | zero =>
    intro k cpus s ys rest building _ _
    exact ⟨cpus,s,ys,building,rfl⟩
  | succ m ih =>
    intro k cpus s ys rest building known few
    have shift : k + 1 + m = k + (m + 1) := by omega
    rw [List.range'_succ,List.cons_append,discover]
    by_cases remains : cpus k = true
    · obtain ⟨possible,_⟩ := (building_next building).mp remains
      have set := known k (by omega) possible
      have sibling : k ∈ forEachCpu t.nrCpuIds (getPossibleSiblings t k) :=
        mem_forEachCpu.mpr ⟨t.bounded k possible,(mem_possibleSiblings set).mpr ⟨possible,rfl⟩⟩
      have filled : (forEachCpu t.nrCpuIds (getPossibleSiblings t k)).isEmpty = false :=
        List.isEmpty_eq_false_iff.mpr (List.ne_nil_of_mem sibling)
      obtain ⟨s',ys',added,next⟩ := building_add building remains set
        ((leaders_mono (by omega)).trans few)
      obtain ⟨cpus'',s'',ys'',built,same⟩ := ih rest next (shift ▸ known) (shift ▸ few)
      refine ⟨cpus'',s'',ys'',shift ▸ built,?_⟩
      rw [if_pos remains]
      simp only [filled,added,Bool.false_eq_true,if_false,Option.bind_some]
      exact same
    · rw [if_neg remains]
      have next := building_skip building (Bool.eq_false_iff.mpr remains)
      obtain ⟨cpus'',s'',ys'',built,same⟩ := ih rest next (shift ▸ known) (shift ▸ few)
      exact ⟨cpus'',s'',ys'',shift ▸ built,same⟩

/-- The state in which the loop starts. -/
def prepared (t : CpuTopology) : Clusters :=
  { initClusters t loaded with links := initListHead (initClusters t loaded).links .newHead }

theorem prepared_building (t : CpuTopology) : Building t 0 t.possible (prepared t) [] := by
  have listed : Ring (initClusters t loaded).links .lseClusterHead [.initCluster] :=
    ring_add (initListHead_ring _ _) (by simp)
  refine { ring := initListHead_ring _ _, fallback := ring_init_other listed (by simp), static := ?_, listed := .nil,
           built := .nil, sorted := .nil, count := rfl, kept := rfl, unowned := ?_, owned := ?_, domain := ?_
           left := fun _ => (left_zero (fun i => t.possible i = true) t.clusterId).symm }
  · simp [prepared,initClusters,Clusters.setCluster,loaded]
  · intro cpu possible
    simp [prepared,initClusters,possible]
  · intro cpu possible gone
    rw [possible] at gone
    cases gone
  · intro cpu possible
    simp [prepared,initClusters,possible]

/-- Discovery completes when every id is known and there are not too many. -/
theorem discovery_completes (valid : ∀ cpu, t.possible cpu = true → 0 ≤ t.clusterId cpu)
    (few : (idsBelow t t.nrCpuIds).length ≤ 4) :
    ∃ cpus s ys, Building t t.nrCpuIds cpus s ys ∧ lseSchedClusterInit t = some (publish t s) := by
  have known : ∀ cpu < 0 + t.nrCpuIds, t.possible cpu = true → t.clusterId cpu ≠ -1 :=
    fun _ _ possible => known_of_valid valid possible
  have bound := leaders_length_le known
  rw [Nat.zero_add] at bound
  obtain ⟨cpus,s,ys,building,same⟩ := discover_building (m := t.nrCpuIds) [] (prepared_building t) known
    (by rw [Nat.zero_add]; exact bound.trans few)
  rw [Nat.zero_add] at building
  refine ⟨cpus,s,ys,building,?_⟩
  rw [List.append_nil,← List.range_eq_range'] at same
  change (discover t (List.range t.nrCpuIds) t.possible (prepared t)).map _ = _
  rw [same]
  rfl

/-- Discovery gives up at the first possible CPU whose id is not known. -/
theorem discovery_gives_up {f : ℕ} (possible : t.possible f = true) (unknown : t.clusterId f = -1)
    (known : ∀ cpu < f, t.possible cpu = true → t.clusterId cpu ≠ -1) (few : (idsBelow t f).length ≤ 4) :
    ∃ cpus s ys, Building t f cpus s ys ∧ lseSchedClusterInit t = some (cleanupClusters s .newHead) := by
  have below := t.bounded f possible
  have bound := leaders_length_le known
  obtain ⟨cpus,s,ys,building,same⟩ := discover_building (m := f) (f :: List.range' (f + 1) (t.nrCpuIds - (f + 1)))
    (prepared_building t) (by rw [Nat.zero_add]; exact known) (by rw [Nat.zero_add]; exact bound.trans few)
  rw [Nat.zero_add] at building
  refine ⟨cpus,s,ys,building,?_⟩
  have remains : cpus f = true := by
    refine (building.left f).mpr ⟨possible,fun j less possibleJ same => ?_⟩
    exact known j less possibleJ (same.trans unknown)
  have empty : (forEachCpu t.nrCpuIds (getPossibleSiblings t f)).isEmpty = true := by
    rw [List.isEmpty_iff,List.eq_nil_iff_forall_not_mem]
    intro cpu member
    simp [getPossibleSiblings,unknown,mem_forEachCpu] at member
  rw [discover,if_pos remains,← List.range_eq_range',← range_split below] at same
  simp only [empty,if_true] at same
  change (discover t (List.range t.nrCpuIds) t.possible (prepared t)).map _ = _
  rw [same]
  rfl

theorem idsBelow_mono {k m : ℕ} (le : k ≤ m) : (idsBelow t k).length ≤ (idsBelow t m).length := by
  refine (List.Nodup.subperm (List.nodup_dedup _) ?_).length_le
  intro id member
  simp only [idsBelow,List.mem_dedup,List.mem_filter,List.mem_map,mem_forEachCpu] at member ⊢
  obtain ⟨⟨cpu,⟨below,possible⟩,same⟩,known⟩ := member
  exact ⟨⟨cpu,⟨below.trans_le le,possible⟩,same⟩,known⟩

end

/-! ### The fallback -/

section
variable {t : CpuTopology}

/-- `init_cluster` is the only cluster, and those that were allocated are gone. -/
structure FallbackIntact (t : CpuTopology) (s : Clusters) : Prop where
  owned : ∀ cpu, t.possible cpu = true → s.rqCluster cpu = .initCluster
  ring : Ring s.links .lseClusterHead [.initCluster]
  visited : forEachLseCluster s = [.initCluster]
  mask : (s.cluster .initCluster).cpus = t.possible
  count : s.numSchedClusters = 0
  unlinked : Ring s.links .newHead [] ∧
    ∀ n < s.allocated, s.links.next (.alloc n) = .poison1 ∧ s.links.prev (.alloc n) = .poison2
  freed : s.freed.Nodup ∧ ∀ c, c ∈ s.freed ↔ ∃ n < s.allocated, c = .alloc n

theorem cleaned_fallback {k : ℕ} {cpus : Cpumask} {s : Clusters} {ys : List ClusterPtr} (building : Building t k cpus s ys) :
    FallbackIntact t (cleanupClusters s .newHead) := by
  obtain ⟨all,_⟩ := building_length building
  have cleaned := cleanupClusters_cleanedUp building.ring all.le
  have mem : ∀ c, c ∈ ys ↔ ∃ n < s.allocated, c = .alloc n := by
    intro c
    rw [building.listed.mem_iff]
    simp [eq_comm]
  have ring := ring_congr building.fallback (fun n member => cleaned.apart n (building_away building member).1)
  refine { owned := ?_, ring := ring, visited := walk_ring ring (by simp), mask := ?_, count := ?_,
           unlinked := ⟨cleaned.ring,?_⟩, freed := ⟨?_,?_⟩ }
  · intro cpu possible
    rw [cleaned.rqCluster]
    by_cases remains : cpus cpu = true
    · rw [building.unowned cpu remains,ite_self]
    · obtain ⟨member,inside⟩ := building.owned cpu possible (Bool.eq_false_iff.mpr remains)
      rw [if_pos ⟨_,member,inside⟩]
  · rw [cleaned.cluster,building.static]
  · rw [cleaned.numSchedClusters,building.count,all,sub_self]
  · intro n below
    rw [cleaned.allocated] at below
    exact cleaned.poisoned _ ((mem _).mpr ⟨n,below,rfl⟩)
  · rw [cleaned.freed,building.kept,List.append_nil,List.nodup_reverse]
    exact (List.nodup_cons.mp building.ring.2).2
  · intro c
    rw [cleaned.freed,building.kept,List.append_nil,List.mem_reverse,cleaned.allocated]
    exact mem c

/-- With an unknown id, discovery leaves the one cluster that there was before. -/
theorem fallback_intact (t : CpuTopology)
    (unknown : ∃ f, t.possible f = true ∧ t.clusterId f = -1 ∧ ((idsBelow t f).length : ℤ) ≤ maxLseClusters) :
    ∃ s, lseSchedClusterInit t = some s ∧ FallbackIntact t s := by
  obtain ⟨f,possible,missing,few⟩ := unknown
  have found : ∃ f, t.possible f = true ∧ t.clusterId f = -1 := ⟨f,possible,missing⟩
  obtain ⟨firstPossible,firstMissing⟩ := Nat.find_spec found
  have known : ∀ cpu < Nat.find found, t.possible cpu = true → t.clusterId cpu ≠ -1 :=
    fun cpu less possibleCpu missingCpu => Nat.find_min found less ⟨possibleCpu,missingCpu⟩
  have below : (idsBelow t (Nat.find found)).length ≤ 4 := by
    have := idsBelow_mono (t := t) (Nat.find_min' found ⟨possible,missing⟩)
    rw [maxLseClusters] at few
    omega
  obtain ⟨cpus,s,ys,building,same⟩ := discovery_gives_up firstPossible firstMissing known below
  exact ⟨_,same,cleaned_fallback building⟩

/-- Two clusters have been built when the third CPU has no id. -/
def thirdUnknown : CpuTopology := fourCpus (fun cpu => if cpu = 2 then -1 else cpu) (fun cpu => by grind)

theorem fallback_intact_third : ∃ s, lseSchedClusterInit thirdUnknown = some s ∧ FallbackIntact thirdUnknown s :=
  fallback_intact thirdUnknown ⟨2,rfl,rfl,by decide +kernel⟩

end

section
variable {t : CpuTopology}

/-- The clusters of the list are the classes of the possible CPUs by their ids. -/
structure TopologyCorrect (t : CpuTopology) (s : Clusters) : Prop where
  ring : Ring s.links .lseClusterHead (forEachLseCluster s)
  nonempty : ∀ c ∈ forEachLseCluster s, ∃ cpu, (s.cluster c).cpus cpu = true
  disjoint : (forEachLseCluster s).Pairwise
    (fun c d => ∀ cpu, ¬ ((s.cluster c).cpus cpu = true ∧ (s.cluster d).cpus cpu = true))
  covering : ∀ cpu, (∃ c ∈ forEachLseCluster s, (s.cluster c).cpus cpu = true) ↔ t.possible cpu = true
  together : ∀ cpu other, t.possible cpu = true → t.possible other = true →
    ((∃ c ∈ forEachLseCluster s, (s.cluster c).cpus cpu = true ∧ (s.cluster c).cpus other = true) ↔
      t.clusterId cpu = t.clusterId other)
  owned : ∀ cpu, t.possible cpu = true →
    s.rqCluster cpu ∈ forEachLseCluster s ∧ (s.cluster (s.rqCluster cpu)).cpus cpu = true
  ids : ∀ c ∈ forEachLseCluster s, ∀ cpu, (s.cluster c).cpus cpu = true → (s.cluster c).id = t.clusterId cpu
  count : s.numSchedClusters = (forEachLseCluster s).length
  smallest : minCapCluster s ∈ forEachLseCluster s ∧ ∀ c ∈ forEachLseCluster s,
    capacityOf t (s.cluster (minCapCluster s)).cpus ≤ capacityOf t (s.cluster c).cpus
  largest : maxCapCluster s ∈ forEachLseCluster s ∧ ∀ c ∈ forEachLseCluster s,
    capacityOf t (s.cluster c).cpus ≤ capacityOf t (s.cluster (maxCapCluster s)).cpus

theorem aligned_ends (s : Clusters) (ys : List ClusterPtr) :
    (aligned t s ys).head? = ys.head? ∧ (aligned t s ys).getLast? = ys.getLast? := by
  unfold aligned
  split
  · split
    · exact ⟨rfl,rfl⟩
    · exact ⟨rfl,rfl⟩
  · exact ⟨rfl,rfl⟩

/-- What the published state has of the list that was built. -/
structure Published (t : CpuTopology) (s : Clusters) (ys : List ClusterPtr) (s' : Clusters) : Prop where
  ring : Ring s'.links .lseClusterHead (aligned t s ys)
  visited : forEachLseCluster s' = aligned t s ys
  reversed : forEachLseClusterReverse s' = (aligned t s ys).reverse
  cpus : ∀ c, (s'.cluster c).cpus = (s.cluster c).cpus
  ids : ∀ c ∈ ys, (s'.cluster c).id = t.clusterId (cpumaskFirst t.nrCpuIds (s.cluster c).cpus)
  rqCluster : s'.rqCluster = s.rqCluster
  freqDomain : s'.freqDomain = s.freqDomain
  unpublished : ∀ c, (s'.cluster c).freqInitDone = (s.cluster c).freqInitDone
  count : s'.numSchedClusters = s.numSchedClusters

theorem building_filled {cpus : Cpumask} {s : Clusters} {ys : List ClusterPtr} (building : Building t t.nrCpuIds cpus s ys) :
    ys ≠ [] := by
  rintro rfl
  obtain ⟨cpu,possible⟩ := t.boot
  obtain ⟨i,le,leads,_⟩ := leads_of_least possible
  have leader : i ∈ leaders t t.nrCpuIds := mem_leaders.mpr ⟨le.trans_lt (t.bounded cpu possible),leads⟩
  have none := (building_length building).2
  rw [List.length_nil,eq_comm,List.length_eq_zero_iff] at none
  simp [none] at leader

theorem publish_published {cpus : Cpumask} {s : Clusters} {ys : List ClusterPtr}
    (building : Building t t.nrCpuIds cpus s ys) : Published t s ys (publish t s) := by
  obtain ⟨all,_⟩ := building_length building
  have away : ClusterPtr.lseClusterHead ∉ ys :=
    fun inside => (building_away building List.mem_cons_self).1 (List.mem_cons_of_mem _ inside)
  obtain ⟨l,same,ring⟩ := publish_eq (t := t) building.ring (building_filled building) away all.le
    (by rw [building.count,all])
  have short : (aligned t s ys).length ≤ s.allocated + 1 := by
    rw [(aligned_perm t s ys).length_eq,all]
    exact Nat.le_succ _
  rw [same]
  refine { ring := ring, visited := walk_ring ring short, reversed := walk_ring (ring_flip ring) (by simpa using short),
           cpus := ?_, ids := ?_, rqCluster := rfl, freqDomain := rfl, unpublished := ?_, count := rfl }
  · intro c
    by_cases member : c ∈ ys
    · simp [withIds,member]
    · simp [withIds,member]
  · intro c member
    simp [withIds,member]
  · intro c
    by_cases member : c ∈ ys
    · simp [withIds,member]
    · simp [withIds,member]

/-- Every possible CPU has its cluster when the loop is through. -/
theorem building_owned {cpus : Cpumask} {s : Clusters} {ys : List ClusterPtr} {cpu : ℕ}
    (building : Building t t.nrCpuIds cpus s ys) (possible : t.possible cpu = true) :
    s.rqCluster cpu ∈ ys ∧ (s.cluster (s.rqCluster cpu)).cpus cpu = true := by
  refine building.owned cpu possible (Bool.eq_false_iff.mpr (fun remains => ?_))
  exact ((building.left cpu).mp remains).2 cpu (t.bounded cpu possible) possible rfl

/-- The mask of a cluster of the list is that of a leader's id. -/
theorem building_mask {k : ℕ} {cpus : Cpumask} {s : Clusters} {ys : List ClusterPtr} {c : ClusterPtr}
    (building : Building t k cpus s ys) (known : ∀ cpu, t.possible cpu = true → t.clusterId cpu ≠ -1) (member : c ∈ ys) :
    ∃ i, Leads t i ∧ cpumaskFirst t.nrCpuIds (s.cluster c).cpus = i ∧
      ∀ cpu, (s.cluster c).cpus cpu = true ↔ t.possible cpu = true ∧ t.clusterId i = t.clusterId cpu := by
  obtain ⟨i,leader,same⟩ := building_leader building member
  have leads := (mem_leaders.mp leader).2
  have set := known i leads.1
  refine ⟨i,leads,?_,fun cpu => ?_⟩
  · rw [same]
    exact siblings_first leads set
  · rw [same]
    exact mem_possibleSiblings set

theorem building_disjoint {k : ℕ} {cpus : Cpumask} {s : Clusters} {ys : List ClusterPtr} (building : Building t k cpus s ys)
    (known : ∀ cpu, t.possible cpu = true → t.clusterId cpu ≠ -1) :
    ys.Pairwise (fun c d => ∀ cpu, ¬ ((s.cluster c).cpus cpu = true ∧ (s.cluster d).cpus cpu = true)) := by
  have apart : (ys.map s.cluster).Pairwise (fun c d => ∀ cpu, ¬ (c.cpus cpu = true ∧ d.cpus cpu = true)) := by
    refine (building.built.pairwise_iff (fun away cpu => (not_congr and_comm).mp (away cpu))).mpr ?_
    refine List.pairwise_map.mpr (leaders_pairwise.imp_of_mem ?_)
    rintro i j leaderI leaderJ other cpu ⟨inI,inJ⟩
    have sameI := ((mem_possibleSiblings (known i (mem_leaders.mp leaderI).2.1)).mp inI).2
    have sameJ := ((mem_possibleSiblings (known j (mem_leaders.mp leaderJ).2.1)).mp inJ).2
    exact other (sameI.trans sameJ.symm)
  exact List.pairwise_map.mp apart

theorem sorted_head {α : Type*} {key : α → ℕ} {xs : List α} {first : α}
    (sorted : xs.Pairwise (fun c d => key c ≤ key d)) (head : xs.head? = some first) : ∀ c ∈ xs, key first ≤ key c := by
  intro c member
  cases xs with
  | nil => simp at member
  | cons x rest =>
    cases head
    rcases List.mem_cons.mp member with rfl | later
    · exact le_rfl
    · exact (List.pairwise_cons.mp sorted).1 c later

theorem sorted_last {α : Type*} {key : α → ℕ} {xs : List α} {last : α}
    (sorted : xs.Pairwise (fun c d => key c ≤ key d)) (getLast : xs.getLast? = some last) :
    ∀ c ∈ xs, key c ≤ key last := by
  intro c member
  obtain ⟨us,rfl⟩ := List.getLast?_eq_some_iff.mp getLast
  rcases List.mem_append.mp member with before | same
  · exact (List.pairwise_append.mp sorted).2.2 c before last (by simp)
  · rw [List.mem_singleton.mp same]

theorem published_correct {cpus : Cpumask} {s s' : Clusters} {ys : List ClusterPtr}
    (building : Building t t.nrCpuIds cpus s ys) (published : Published t s ys s')
    (known : ∀ cpu, t.possible cpu = true → t.clusterId cpu ≠ -1) : TopologyCorrect t s' := by
  have perm := aligned_perm t s ys
  have filled : aligned t s ys ≠ [] := fun empty => building_filled building (List.perm_nil.mp (empty ▸ perm.symm))
  have minCap := ring_first published.ring filled
  have maxCap := ring_last published.ring filled
  rw [← minCapCluster] at minCap
  rw [← maxCapCluster] at maxCap
  refine { ring := published.visited ▸ published.ring, nonempty := ?_, disjoint := ?_, covering := ?_, together := ?_,
           owned := ?_, ids := ?_, count := ?_, smallest := ?_, largest := ?_ }
  all_goals simp only [published.visited,published.cpus,published.rqCluster,perm.mem_iff]
  · intro c member
    obtain ⟨i,leads,_,mask⟩ := building_mask building known member
    exact ⟨i,(mask i).mpr ⟨leads.1,rfl⟩⟩
  · refine (perm.pairwise_iff (fun away cpu => (not_congr and_comm).mp (away cpu))).mpr ?_
    exact building_disjoint building known
  · intro cpu
    constructor
    · rintro ⟨c,member,inside⟩
      obtain ⟨i,_,_,mask⟩ := building_mask building known member
      exact ((mask cpu).mp inside).1
    · intro possible
      obtain ⟨member,inside⟩ := building_owned building possible
      exact ⟨_,member,inside⟩
  · intro cpu other possible possibleOther
    constructor
    · rintro ⟨c,member,inside,insideOther⟩
      obtain ⟨i,_,_,mask⟩ := building_mask building known member
      exact ((mask cpu).mp inside).2.symm.trans ((mask other).mp insideOther).2
    · intro same
      obtain ⟨member,inside⟩ := building_owned building possible
      obtain ⟨i,_,_,mask⟩ := building_mask building known member
      exact ⟨_,member,inside,(mask other).mpr ⟨possibleOther,((mask cpu).mp inside).2.trans same⟩⟩
  · exact fun cpu possible => building_owned building possible
  · intro c member cpu inside
    obtain ⟨i,_,first,mask⟩ := building_mask building known member
    rw [published.ids c member,first]
    exact ((mask cpu).mp inside).2
  · rw [published.count,building.count,perm.length_eq,(building_length building).1]
  · refine ⟨perm.mem_iff.mp (List.mem_of_mem_head? minCap),sorted_head building.sorted ?_⟩
    rw [← (aligned_ends s ys).1]
    exact minCap
  · refine ⟨perm.mem_iff.mp (List.mem_of_mem_getLast? maxCap),sorted_last building.sorted ?_⟩
    rw [← (aligned_ends s ys).2]
    exact maxCap

/-- With known ids, of which there are not too many, discovery finds the classes of the CPUs. -/
theorem topology_correct (t : CpuTopology) (valid : ∀ cpu, t.possible cpu = true → 0 ≤ t.clusterId cpu)
    (few : ((idsBelow t t.nrCpuIds).length : ℤ) ≤ maxLseClusters) :
    ∃ s, lseSchedClusterInit t = some s ∧ TopologyCorrect t s := by
  obtain ⟨cpus,s,ys,building,same⟩ := discovery_completes valid (by rw [maxLseClusters] at few; omega)
  exact ⟨_,same,published_correct building (publish_published building) (fun _ => known_of_valid valid)⟩

theorem topology_correct_four : ∃ s, lseSchedClusterInit fourClusters = some s ∧ TopologyCorrect fourClusters s :=
  topology_correct fourClusters (fun cpu _ => fourClusters_valid cpu) (by decide +kernel)

end

/-! ### The order of iteration -/

section
variable {t : CpuTopology}

/-- The capacities of the clusters at their first CPUs, the smallest first. -/
def sortedCapacities (t : CpuTopology) : List ℕ :=
  ((leaders t t.nrCpuIds).map t.capacity).insertionSort (fun c d => c ≤ d)

/-- Of four clusters the two in the middle have one capacity. -/
def MiddleTied (t : CpuTopology) : Prop :=
  (sortedCapacities t).length = 4 → (sortedCapacities t)[1]? = (sortedCapacities t)[2]?

/-- The clusters are visited in the order of their capacities, and backwards in reverse. -/
def IteratedByCapacity (t : CpuTopology) (s : Clusters) : Prop :=
  (forEachLseCluster s).Pairwise (fun c d => capacityOf t (s.cluster c).cpus ≤ capacityOf t (s.cluster d).cpus) ∧
  (forEachLseClusterReverse s).Pairwise (fun c d => capacityOf t (s.cluster d).cpus ≤ capacityOf t (s.cluster c).cpus)

theorem building_capacities {cpus : Cpumask} {s : Clusters} {ys : List ClusterPtr}
    (building : Building t t.nrCpuIds cpus s ys) (known : ∀ cpu, t.possible cpu = true → t.clusterId cpu ≠ -1) :
    ys.map (fun c => capacityOf t (s.cluster c).cpus) = sortedCapacities t := by
  have perm : (ys.map (fun c => capacityOf t (s.cluster c).cpus)).Perm (sortedCapacities t) := by
    refine List.Perm.trans ?_ (List.perm_insertionSort _ _).symm
    have built := building.built.map (fun c => capacityOf t c.cpus)
    rw [List.map_map,List.map_map] at built
    refine built.trans (List.Perm.of_eq (List.map_congr_left (fun i leader => ?_)))
    obtain ⟨_,leads⟩ := mem_leaders.mp leader
    exact congrArg t.capacity (siblings_first leads (known i leads.1))
  have sorted : (ys.map (fun c => capacityOf t (s.cluster c).cpus)).Pairwise (fun c d => c ≤ d) :=
    List.pairwise_map.mpr building.sorted
  exact List.Perm.eq_of_pairwise (fun _ _ _ _ => le_antisymm) sorted (List.pairwise_insertionSort _ _) perm

theorem aligned_sorted_iff {s : Clusters} {ys : List ClusterPtr}
    (sorted : ys.Pairwise (fun c d => capacityOf t (s.cluster c).cpus ≤ capacityOf t (s.cluster d).cpus))
    (capacities : ys.map (fun c => capacityOf t (s.cluster c).cpus) = sortedCapacities t) :
    (aligned t s ys).Pairwise (fun c d => capacityOf t (s.cluster c).cpus ≤ capacityOf t (s.cluster d).cpus) ↔
      MiddleTied t := by
  rw [MiddleTied,← capacities,List.length_map]
  by_cases four : ys.length = 4
  · obtain ⟨a,b,c,d,rfl⟩ := List.length_eq_four.mp four
    have le : capacityOf t (s.cluster b).cpus ≤ capacityOf t (s.cluster c).cpus := by
      simp only [List.pairwise_cons] at sorted
      exact sorted.2.1 c (by simp)
    simp only [aligned,List.map_cons,List.map_nil,List.getElem?_cons_succ,List.getElem?_cons_zero,Option.some.injEq]
    by_cases less : capacityOf t (s.cluster b).cpus < capacityOf t (s.cluster c).cpus
    · rw [if_pos less]
      refine iff_of_false (fun swapped => ?_) (fun tied => absurd (tied rfl) less.ne)
      simp only [List.pairwise_cons] at swapped
      exact absurd (swapped.2.1 b (by simp)) (not_le.mpr less)
    · rw [if_neg less]
      exact iff_of_true sorted (fun _ => le_antisymm le (not_lt.mp less))
  · have same : aligned t s ys = ys := by
      rw [aligned]
      rintro a b c d rfl
      exact four rfl
    rw [same]
    exact iff_of_true sorted (fun length => absurd length four)

theorem published_iterated_iff {cpus : Cpumask} {s s' : Clusters} {ys : List ClusterPtr}
    (building : Building t t.nrCpuIds cpus s ys) (published : Published t s ys s')
    (known : ∀ cpu, t.possible cpu = true → t.clusterId cpu ≠ -1) : IteratedByCapacity t s' ↔ MiddleTied t := by
  rw [IteratedByCapacity,published.visited,published.reversed,List.pairwise_reverse,and_self]
  simp only [published.cpus]
  exact aligned_sorted_iff building.sorted (building_capacities building known)

/-- The clusters are in the order of their capacities exactly when the two in the middle of
    four have one capacity. -/
theorem iterated_by_capacity_iff (t : CpuTopology) (valid : ∀ cpu, t.possible cpu = true → 0 ≤ t.clusterId cpu)
    (few : ((idsBelow t t.nrCpuIds).length : ℤ) ≤ maxLseClusters) :
    ∃ s, lseSchedClusterInit t = some s ∧ (IteratedByCapacity t s ↔ MiddleTied t) := by
  obtain ⟨cpus,s,ys,building,same⟩ := discovery_completes valid (by rw [maxLseClusters] at few; omega)
  exact ⟨_,same,published_iterated_iff building (publish_published building) (fun _ => known_of_valid valid)⟩

/-- Four clusters, the second and the third of one capacity. -/
def tiedClusters : CpuTopology := { fourClusters with capacity := fun cpu => if cpu = 1 ∨ cpu = 2 then 200 else 100 * (cpu + 1) }

theorem iterated_by_capacity_tied : ∃ s, lseSchedClusterInit tiedClusters = some s ∧ IteratedByCapacity tiedClusters s := by
  obtain ⟨s,built,ordered⟩ := iterated_by_capacity_iff tiedClusters (fun cpu _ => fourClusters_valid cpu) (by decide +kernel)
  have tied : MiddleTied tiedClusters := fun _ => by decide +kernel
  exact ⟨s,built,ordered.mpr tied⟩

/-- The second and the third of four clusters are visited in the wrong order. -/
theorem four_out_of_order :
    ¬ ∀ t : CpuTopology, (∀ cpu, t.possible cpu = true → 0 ≤ t.clusterId cpu) →
      ((idsBelow t t.nrCpuIds).length : ℤ) ≤ maxLseClusters →
      ∃ s, lseSchedClusterInit t = some s ∧ IteratedByCapacity t s := by
  intro claimed
  obtain ⟨s,same,ordered,_⟩ := claimed fourClusters (fun cpu _ => fourClusters_valid cpu) (by decide +kernel)
  have visited : (lseSchedClusterInit fourClusters).map
      (fun s => (forEachLseCluster s).map (fun c => capacityOf fourClusters (s.cluster c).cpus)) =
        some [100,300,200,400] := by decide +kernel
  rw [same,Option.map_some,Option.some.injEq] at visited
  have capacities := List.pairwise_map.mpr ordered
  rw [visited] at capacities
  exact absurd capacities (by decide)

end

end LunarSched.ClusterTopology
