import LunarSched.Kernel
import LunarSched.ListHead
import Mathlib.Data.List.TakeWhile

/-!
The scheduler's clusters (`lse_sched_cluster.c`). The CPUs that have one topology id form
a cluster; the clusters are allocated, sorted by capacity into a temporary list, and the
list is moved to `lse_cluster_head` at the end. A pointer to a cluster and one to the list
node in it are not told apart. A `BUG_ON` that fires is `none`.
-/
namespace LunarSched.SchedCluster
open LunarSched.Machine LunarSched.Kernel LunarSched.ListHead

/-- The addresses at which there is a list node: `lse_cluster_head`, the head on the stack
    of `update_cluster_topology`, `init_cluster` and the clusters in the order in which they
    are allocated. The others point to no node. -/
inductive ClusterPtr where
  | null
  | poison1
  | poison2
  | lseClusterHead
  | newHead
  | initCluster
  | alloc (n : ℕ)
  deriving DecidableEq, Repr

def listPoison : ClusterPtr × ClusterPtr := (.poison1,.poison2)

/-- `struct lse_sched_cluster` without its list node. -/
structure LseSchedCluster where
  cpus : Cpumask
  id : ℤ
  maxPossibleCapacity : ℤ
  curFreq : ℕ
  maxFreq : ℕ
  minFreq : ℕ
  capacityMargin : ℕ
  sdCapacityMargin : ℕ
  freqInitDone : Bool

/-- What the kernel says of the CPUs: `cluster_id` or `package_id` of `cpu_topology`, and
    `arch_scale_cpu_capacity`. An id is -1 until the architecture has set it. -/
structure CpuTopology where
  nrCpuIds : ℕ
  possible : Cpumask
  clusterId : ℕ → ℤ
  capacity : ℕ → ℕ
  bounded : ∀ cpu, possible cpu = true → cpu < nrCpuIds
  /-- The CPU that boots is possible. -/
  boot : ∃ cpu, possible cpu = true
  known : ∀ cpu, -1 ≤ clusterId cpu

/-- The variables of the file, and `cluster` and `freq_domain_cpumask` of every CPU's
    `lse_rq`. -/
structure Clusters where
  numSchedClusters : ℤ
  links : Links ClusterPtr
  cluster : ClusterPtr → LseSchedCluster
  rqCluster : ℕ → ClusterPtr
  freqDomain : ℕ → Cpumask
  allocated : ℕ
  freed : List ClusterPtr

def maxLseClusters : ℤ := 4
def schedCapacityScale : ℤ := 1024

def zeroCluster : LseSchedCluster := ⟨fun _ => false,0,0,0,0,0,0,0,false⟩

/-- The static initialiser of `init_cluster`. -/
def initClusterStatic : LseSchedCluster where
  cpus := fun _ => false
  id := 0
  maxPossibleCapacity := schedCapacityScale
  curFreq := 1
  maxFreq := 1
  minFreq := 1
  capacityMargin := 1280
  sdCapacityMargin := 1280
  freqInitDone := false

/-- The state when the module has been loaded. -/
def loaded : Clusters where
  numSchedClusters := 0
  links := initListHead ⟨fun _ => .null,fun _ => .null⟩ .initCluster
  cluster := fun c => if c = .initCluster then initClusterStatic else zeroCluster
  rqCluster := fun _ => .null
  freqDomain := fun _ _ => false
  allocated := 0
  freed := []

def Clusters.setCluster (s : Clusters) (c : ClusterPtr) (f : LseSchedCluster → LseSchedCluster) : Clusters :=
  { s with cluster := Function.update s.cluster c (f (s.cluster c)) }

/-- `list_for_each_entry`. No list here is longer than the number of clusters there are. -/
def forEachEntry (s : Clusters) (head : ClusterPtr) : List ClusterPtr := walk s.links head (s.allocated + 1) head

/-- `for_each_lse_cluster`. -/
def forEachLseCluster (s : Clusters) : List ClusterPtr := forEachEntry s .lseClusterHead

def forEachLseClusterReverse (s : Clusters) : List ClusterPtr :=
  walk s.links.flip .lseClusterHead (s.allocated + 1) .lseClusterHead

def minCapCluster (s : Clusters) : ClusterPtr := s.links.next .lseClusterHead
def maxCapCluster (s : Clusters) : ClusterPtr := s.links.prev .lseClusterHead

/-- `arch_scale_cpu_capacity` of the first CPU of a mask. -/
def capacityOf (t : CpuTopology) (cpus : Cpumask) : ℕ := t.capacity (cpumaskFirst t.nrCpuIds cpus)

def initClusters (t : CpuTopology) (s : Clusters) : Clusters :=
  let s := s.setCluster .initCluster (fun c => { c with cpus := t.possible })
  { s with
    links := listAdd (initListHead s.links .lseClusterHead) .initCluster .lseClusterHead
    rqCluster := fun cpu => if t.possible cpu then .initCluster else s.rqCluster cpu
    freqDomain := fun cpu => if t.possible cpu then fun other => other == cpu else s.freqDomain cpu }

/-- The node after which `insert_cluster` adds a cluster of the capacity: the last one before
    the first entry that has a greater capacity. -/
def insertPoint (t : CpuTopology) (s : Clusters) (capacity : ℕ) (head : ClusterPtr) : ClusterPtr :=
  ((forEachEntry s head).takeWhile (fun tmp => !decide (capacity < capacityOf t (s.cluster tmp).cpus))).getLastD head

def insertCluster (t : CpuTopology) (s : Clusters) (cluster head : ClusterPtr) : Clusters :=
  { s with links := listAdd s.links cluster (insertPoint t s (capacityOf t (s.cluster cluster).cpus) head) }

/-- What `alloc_new_cluster` returns; the id is still 0 from `kzalloc`. -/
def newCluster (t : CpuTopology) (cpus : Cpumask) : LseSchedCluster where
  cpus := cpus
  id := 0
  maxPossibleCapacity := s32 (capacityOf t cpus)
  curFreq := 1
  maxFreq := 1
  minFreq := 1
  capacityMargin := 1280
  sdCapacityMargin := 1280
  freqInitDone := false

def allocNewCluster (t : CpuTopology) (s : Clusters) (cpus : Cpumask) : ClusterPtr × Clusters :=
  let cluster := ClusterPtr.alloc s.allocated
  (cluster,{ s with
    links := initListHead s.links cluster
    cluster := Function.update s.cluster cluster (newCluster t cpus)
    allocated := s.allocated + 1 })

def addCluster (t : CpuTopology) (s : Clusters) (cpus : Cpumask) (head : ClusterPtr) : Option Clusters :=
  let (cluster,s) := allocNewCluster t s cpus
  if maxLseClusters ≤ s.numSchedClusters then none
  else
    let s := { s with rqCluster := fun cpu => if cpus cpu then cluster else s.rqCluster cpu }
    let s := insertCluster t s cluster head
    some { s with numSchedClusters := s.numSchedClusters + 1 }

/-- The body of the loop of `cleanup_clusters`. -/
def cleanupCluster (s : Clusters) (cluster : ClusterPtr) : Clusters :=
  { s with
    rqCluster := fun cpu => if (s.cluster cluster).cpus cpu then .initCluster else s.rqCluster cpu
    links := listDel listPoison s.links cluster
    numSchedClusters := s.numSchedClusters - 1
    freed := cluster :: s.freed }

/-- The loop, from a cluster on; the next one is read before the body. -/
def cleanupFrom (head : ClusterPtr) : ℕ → Clusters → ClusterPtr → Clusters
  | 0, s, _ => s
  | fuel + 1, s, cluster =>
    if cluster = head then s else cleanupFrom head fuel (cleanupCluster s cluster) (s.links.next cluster)

def cleanupClusters (s : Clusters) (head : ClusterPtr) : Clusters :=
  cleanupFrom head (s.allocated + 1) s (s.links.next head)

/-- The capacity that `align_clusters` has for the entry with this number. -/
def entryCapacity (t : CpuTopology) (s : Clusters) (entries : List ClusterPtr) (i : ℕ) : ℕ :=
  (entries[i]?.map (fun tmp => capacityOf t (s.cluster tmp).cpus)).getD 0

def alignClusters (t : CpuTopology) (s : Clusters) (head : ClusterPtr) : Clusters :=
  if s.numSchedClusters ≠ 4 then s
  else
    let entries := forEachEntry s head
    if entryCapacity t s entries 1 < entryCapacity t s entries 2 then
      { s with links := listSwap listPoison s.links (entries.getD 1 head) (entries.getD 2 head) }
    else s

def assignClusterId (t : CpuTopology) (s : Clusters) (cluster : ClusterPtr) : Clusters :=
  s.setCluster cluster (fun c => { c with id := t.clusterId (cpumaskFirst t.nrCpuIds c.cpus) })

def assignClusterIds (t : CpuTopology) (s : Clusters) (head : ClusterPtr) : Clusters :=
  (forEachEntry s head).foldl (assignClusterId t) s

def moveList (l : Links ClusterPtr) (dst src : ClusterPtr) (syncRcu : Bool) : Links ClusterPtr :=
  let first := l.next src
  let last := l.prev src
  let l := if syncRcu then initListHead l src else l
  (((l.setPrev first dst).setPrev dst last).setNext last dst).setNext dst first

def getPossibleSiblings (t : CpuTopology) (cpuid : ℕ) : Cpumask :=
  fun cpu => decide (t.clusterId cpuid ≠ -1) && (t.possible cpu && decide (t.clusterId cpuid = t.clusterId cpu))

/-- The loop of `update_cluster_topology` over the CPUs from one on, and the CPUs that are
    left; `false` says that it has given up. -/
def discover (t : CpuTopology) : List ℕ → Cpumask → Clusters → Option (Bool × Clusters)
  | [], _, s => some (true,s)
  | i :: rest, cpus, s =>
    if cpus i then
      let clusterCpus := getPossibleSiblings t i
      if (forEachCpu t.nrCpuIds clusterCpus).isEmpty then some (false,cleanupClusters s .newHead)
      else (addCluster t s clusterCpus .newHead).bind (discover t rest (fun cpu => cpus cpu && !clusterCpus cpu))
    else discover t rest cpus s

/-- What `update_cluster_topology` does with the list that it has built. -/
def publish (t : CpuTopology) (s : Clusters) : Clusters :=
  let s := alignClusters t s .newHead
  let s := assignClusterIds t s .newHead
  { s with links := moveList s.links .lseClusterHead .newHead false }

def updateClusterTopology (t : CpuTopology) (s : Clusters) : Option Clusters :=
  let s := { s with links := initListHead s.links .newHead }
  (discover t (List.range t.nrCpuIds) t.possible s).map (fun (completed,s) => if completed then publish t s else s)

/-- `lse_sched_cluster_init`, up to the registration of the notifiers. -/
def lseSchedClusterInit (t : CpuTopology) : Option Clusters := updateClusterTopology t (initClusters t loaded)

/-! ### What the parts do -/

theorem mem_possibleSiblings {t : CpuTopology} {cpuid cpu : ℕ} (known : t.clusterId cpuid ≠ -1) :
    getPossibleSiblings t cpuid cpu = true ↔ t.possible cpu = true ∧ t.clusterId cpuid = t.clusterId cpu := by
  simp [getPossibleSiblings,known]

/-- What the addition of a cluster to a sorted list does. -/
structure Added (t : CpuTopology) (s : Clusters) (cpus : Cpumask) (head : ClusterPtr) (ys : List ClusterPtr)
    (s' : Clusters) : Prop where
  ring : ∃ us vs, ys = us ++ vs ∧ Ring s'.links head (us ++ .alloc s.allocated :: vs) ∧
    (∀ c ∈ us, capacityOf t (s.cluster c).cpus ≤ capacityOf t cpus) ∧
    ∀ c ∈ vs.head?, capacityOf t cpus < capacityOf t (s.cluster c).cpus
  apart : ∀ n ∉ head :: ys, n ≠ .alloc s.allocated →
    s'.links.next n = s.links.next n ∧ s'.links.prev n = s.links.prev n
  cluster : s'.cluster = Function.update s.cluster (.alloc s.allocated) (newCluster t cpus)
  rqCluster : s'.rqCluster = fun cpu => if cpus cpu then .alloc s.allocated else s.rqCluster cpu
  numSchedClusters : s'.numSchedClusters = s.numSchedClusters + 1
  allocated : s'.allocated = s.allocated + 1
  freqDomain : s'.freqDomain = s.freqDomain
  freed : s'.freed = s.freed

theorem added_cluster {t : CpuTopology} {s s' : Clusters} {cpus : Cpumask} {head : ClusterPtr} {ys : List ClusterPtr}
    (added : Added t s cpus head ys s') :
    s'.cluster (.alloc s.allocated) = newCluster t cpus ∧ ∀ c, c ≠ .alloc s.allocated → s'.cluster c = s.cluster c := by
  rw [added.cluster]
  exact ⟨Function.update_self ..,fun c away => Function.update_of_ne away ..⟩

theorem addCluster_added {t : CpuTopology} {s : Clusters} {cpus : Cpumask} {head : ClusterPtr} {ys : List ClusterPtr}
    (ring : Ring s.links head ys) (short : ys.length ≤ s.allocated) (fresh : .alloc s.allocated ∉ head :: ys)
    (room : s.numSchedClusters < maxLseClusters) : ∃ s', addCluster t s cpus head = some s' ∧ Added t s cpus head ys s' := by
  have ready : Ring (initListHead s.links (.alloc s.allocated)) head ys := ring_init_other ring fresh
  have visited : walk (initListHead s.links (.alloc s.allocated)) head (s.allocated + 1 + 1) head = ys :=
    walk_ring ready (by omega)
  refine ⟨_,if_neg (not_le.mpr room),?_⟩
  simp only [insertCluster,insertPoint,forEachEntry,visited,Function.update_self]
  set p : ClusterPtr → Bool := fun tmp => !decide (capacityOf t (newCluster t cpus).cpus <
    capacityOf t (Function.update s.cluster (.alloc s.allocated) (newCluster t cpus) tmp).cpus) with spec
  have other : ∀ c ∈ ys, p c = !decide (capacityOf t cpus < capacityOf t (s.cluster c).cpus) := by
    intro c member
    have away : c ≠ .alloc s.allocated := ne_of_mem_of_not_mem (List.mem_cons_of_mem _ member) fresh
    simp only [spec,Function.update_of_ne away]
    rfl
  have point : (ys.takeWhile p).getLastD head ∈ head :: ys := by
    rcases List.eq_nil_or_concat (ys.takeWhile p) with none | ⟨us,c,some⟩
    · rw [none]
      exact List.mem_cons_self
    · have member : c ∈ ys.takeWhile p := by simp [some]
      rw [some,List.concat_eq_append,List.getLastD_concat]
      exact List.mem_cons_of_mem _ ((List.takeWhile_prefix p).subset member)
  refine ⟨⟨ys.takeWhile p,ys.dropWhile p,List.takeWhile_append_dropWhile.symm,?_,?_,?_⟩,?_,rfl,rfl,rfl,rfl,rfl,rfl⟩
  · refine ring_add_between ?_ ?_
    · rw [List.takeWhile_append_dropWhile]
      exact ready
    · rw [List.takeWhile_append_dropWhile]
      exact fresh
  · intro c member
    have held := List.mem_takeWhile_imp member
    rw [other c ((List.takeWhile_prefix p).subset member)] at held
    simpa using held
  · intro c first
    have stopped := List.head?_dropWhile_not p ys
    rw [Option.mem_def.mp first] at stopped
    simp only [other c ((List.dropWhile_suffix p).subset (List.mem_of_mem_head? first))] at stopped
    simpa using stopped
  · intro n away old
    obtain ⟨next,prev⟩ := listAdd_other ready point away old
    obtain ⟨next',prev'⟩ := initListHead_other s.links old
    exact ⟨next.trans next',prev.trans prev'⟩

/-- What the clean-up of a list does. -/
structure CleanedUp (s : Clusters) (head : ClusterPtr) (ys : List ClusterPtr) (s' : Clusters) : Prop where
  ring : Ring s'.links head []
  poisoned : ∀ c ∈ ys, s'.links.next c = .poison1 ∧ s'.links.prev c = .poison2
  apart : ∀ n ∉ head :: ys, s'.links.next n = s.links.next n ∧ s'.links.prev n = s.links.prev n
  rqCluster : ∀ cpu, s'.rqCluster cpu =
    if ∃ c ∈ ys, (s.cluster c).cpus cpu = true then .initCluster else s.rqCluster cpu
  numSchedClusters : s'.numSchedClusters = s.numSchedClusters - ys.length
  freed : s'.freed = ys.reverse ++ s.freed
  cluster : s'.cluster = s.cluster
  allocated : s'.allocated = s.allocated
  freqDomain : s'.freqDomain = s.freqDomain

theorem cleanupFrom_cleanedUp {head : ClusterPtr} :
    ∀ {ys : List ClusterPtr} {fuel : ℕ} {s : Clusters}, Ring s.links head ys → ys.length < fuel →
      CleanedUp s head ys (cleanupFrom head fuel s (s.links.next head)) := by
  intro ys
  induction ys with
  | nil =>
    intro fuel s ring enough
    obtain ⟨fuel,rfl⟩ : ∃ n, fuel = n + 1 := ⟨fuel - 1,by simp at enough; omega⟩
    have done : s.links.next head = head := ring.1.1
    rw [cleanupFrom,done,if_pos rfl]
    exact ⟨ring,by simp,by simp,by simp,by simp,by simp,rfl,rfl,rfl⟩
  | cons c ys ih =>
    intro fuel s ring enough
    obtain ⟨fuel,rfl⟩ : ∃ n, fuel = n + 1 := ⟨fuel - 1,by simp at enough; omega⟩
    have first : s.links.next head = c := ring.1.1
    have away : c ≠ head := fun same => (List.nodup_cons.mp ring.2).1 (same ▸ List.mem_cons_self)
    have outside : c ∉ head :: ys := by
      rw [List.mem_cons,not_or]
      exact ⟨away,(List.nodup_cons.mp (List.nodup_cons.mp ring.2).2).1⟩
    have whole : Ring s.links head ([] ++ c :: ys) := ring
    have deleted : Ring (cleanupCluster s c).links head ys := ring_del listPoison whole
    have next : (cleanupCluster s c).links.next head = s.links.next c := by
      have step : s.links.next c = _ := path_next ring.1.2.2
      rw [path_next deleted.1,step]
    rw [cleanupFrom,first,if_neg away,← next]
    have enough : ys.length < fuel := by simpa using enough
    have rest := ih deleted enough
    refine { ring := rest.ring, poisoned := ?_, apart := ?_, rqCluster := ?_, numSchedClusters := ?_, freed := ?_,
             cluster := rest.cluster, allocated := rest.allocated, freqDomain := rest.freqDomain }
    · intro d member
      rcases List.mem_cons.mp member with rfl | later
      · obtain ⟨next,prev⟩ := rest.apart d outside
        rw [next,prev]
        simp [cleanupCluster,listDel_next,listDel_prev,listPoison]
      · exact rest.poisoned d later
    · intro n far
      obtain ⟨next,prev⟩ := rest.apart n (fun member => far (by simp only [List.mem_cons] at member ⊢; tauto))
      obtain ⟨next',prev'⟩ := listDel_other listPoison ring (e := c) (by simp) far
      exact ⟨next.trans next',prev.trans prev'⟩
    · intro cpu
      rw [rest.rqCluster]
      simp only [cleanupCluster,List.exists_mem_cons_iff]
      split_ifs <;> grind
    · rw [rest.numSchedClusters]
      simp only [cleanupCluster,List.length_cons]
      omega
    · rw [rest.freed]
      simp [cleanupCluster]

theorem cleanupClusters_cleanedUp {s : Clusters} {head : ClusterPtr} {ys : List ClusterPtr} (ring : Ring s.links head ys)
    (short : ys.length ≤ s.allocated) : CleanedUp s head ys (cleanupClusters s head) :=
  cleanupFrom_cleanedUp ring (by omega)

/-- The list after `align_clusters`: of four clusters the middle ones trade places when the
    first of them has the smaller capacity. -/
def aligned (t : CpuTopology) (s : Clusters) : List ClusterPtr → List ClusterPtr
  | [a,b,c,d] => if capacityOf t (s.cluster b).cpus < capacityOf t (s.cluster c).cpus then [a,c,b,d] else [a,b,c,d]
  | ys => ys

theorem aligned_perm (t : CpuTopology) (s : Clusters) (ys : List ClusterPtr) : (aligned t s ys).Perm ys := by
  unfold aligned
  split
  · split
    · exact .cons _ (.swap _ _ _)
    · exact .rfl
  · exact .rfl

theorem alignClusters_ring {t : CpuTopology} {s : Clusters} {head : ClusterPtr} {ys : List ClusterPtr}
    (ring : Ring s.links head ys) (short : ys.length ≤ s.allocated) (count : s.numSchedClusters = ys.length) :
    ∃ l, alignClusters t s head = { s with links := l } ∧ Ring l head (aligned t s ys) := by
  have visited : forEachEntry s head = ys := walk_ring ring (by omega)
  by_cases four : ys.length = 4
  · obtain ⟨a,b,c,d,rfl⟩ := List.length_eq_four.mp four
    rw [alignClusters,if_neg (by simp [count]),visited,aligned]
    simp only [entryCapacity]
    by_cases less : capacityOf t (s.cluster b).cpus < capacityOf t (s.cluster c).cpus
    · have middle : Ring s.links head ([a] ++ b :: c :: [d]) := ring
      rw [if_pos less]
      exact ⟨_,if_pos less,ring_swap listPoison middle⟩
    · rw [if_neg less]
      exact ⟨s.links,if_neg less,ring⟩
  · have same : aligned t s ys = ys := by
      rw [aligned]
      rintro a b c d rfl
      exact four rfl
    rw [alignClusters,if_pos (by omega),same]
    exact ⟨s.links,rfl,ring⟩

theorem assignClusterIds_eq {t : CpuTopology} (ys : List ClusterPtr) (distinct : ys.Nodup) (s : Clusters) :
    ys.foldl (assignClusterId t) s = { s with cluster := fun c =>
      if c ∈ ys then { s.cluster c with id := t.clusterId (cpumaskFirst t.nrCpuIds (s.cluster c).cpus) } else s.cluster c } := by
  induction ys generalizing s with
  | nil => simp
  | cons d ys ih =>
    obtain ⟨away,distinct⟩ := List.nodup_cons.mp distinct
    rw [List.foldl_cons,ih distinct]
    simp only [assignClusterId,Clusters.setCluster]
    congr
    funext c
    by_cases same : c = d
    · subst same
      simp [away]
    · simp [same]

theorem moveList_next (l : Links ClusterPtr) (dst src n : ClusterPtr) :
    (moveList l dst src false).next n = if n = dst then l.next src else if n = l.prev src then dst else l.next n := by
  simp [moveList,Links.setNext,Links.setPrev,Function.update_apply]

theorem moveList_prev (l : Links ClusterPtr) (dst src n : ClusterPtr) :
    (moveList l dst src false).prev n = if n = dst then l.prev src else if n = l.next src then dst else l.prev n := by
  simp [moveList,Links.setNext,Links.setPrev,Function.update_apply]

/-- The nodes of the source list are the destination's, in their order. -/
theorem moveList_ring {l : Links ClusterPtr} {dst src : ClusterPtr} {xs : List ClusterPtr} (ring : Ring l src xs)
    (filled : xs ≠ []) (away : dst ∉ src :: xs) : Ring (moveList l dst src false) dst xs := by
  have firstMem := List.mem_of_mem_head? (ring_first ring filled)
  have lastMem := List.mem_of_mem_getLast? (ring_last ring filled)
  obtain ⟨path,distinct⟩ := ring
  obtain ⟨srcAway,inside⟩ := List.nodup_cons.mp distinct
  obtain ⟨notSrc,outside⟩ := not_or.mp (List.mem_cons.not.mp away)
  -- The first node is turned to the destination, and then the last one.
  let mid := (l.setPrev (l.next src) dst).setNext dst (l.next src)
  have midNext : ∀ n, mid.next n = if n = dst then l.next src else l.next n := by
    intro n
    simp [mid,Links.setNext,Links.setPrev,Function.update_apply]
  have midPrev : ∀ n, mid.prev n = if n = l.next src then dst else l.prev n := by
    intro n
    simp [mid,Links.setNext,Links.setPrev,Function.update_apply]
  have turned : Path mid dst xs src := by
    refine path_reroot path ?_ ?_ ?_ ?_
    · rw [midNext,if_pos rfl]
    · rw [midPrev,if_pos rfl]
    · intro n member
      rw [midNext,if_neg (ne_of_mem_of_not_mem member outside)]
    · intro n later
      rw [midPrev,if_neg (path_next_ne path (nodup_concat distinct) n later)]
  have back : mid.prev src = l.prev src := by rw [midPrev,if_neg (ne_of_mem_of_not_mem firstMem srcAway).symm]
  refine ⟨?_,List.nodup_cons.mpr ⟨outside,inside⟩⟩
  have flipped : Path (moveList l dst src false).flip dst xs.reverse dst := by
    refine path_reroot (path_flip turned) ?_ ?_ ?_ ?_
    · change (moveList l dst src false).prev dst = mid.prev src
      rw [moveList_prev,if_pos rfl,back]
    · change (moveList l dst src false).next (mid.prev src) = dst
      rw [moveList_next,back,if_neg (ne_of_mem_of_not_mem lastMem outside),if_pos rfl]
    · intro n member
      have member := List.mem_reverse.mp member
      change (moveList l dst src false).prev n = mid.prev n
      rw [moveList_prev,midPrev,if_neg (ne_of_mem_of_not_mem member outside)]
    · intro n later
      have apart : (xs.reverse ++ [dst]).Nodup := nodup_concat (by simpa using ⟨outside,inside⟩)
      have other : n ≠ l.prev src := back ▸ path_next_ne (path_flip turned) apart n later
      change (moveList l dst src false).next n = mid.next n
      rw [moveList_next,midNext,if_neg other]
  simpa [Links.flip] using path_flip flipped

/-- The clusters of a list with their ids assigned. -/
def withIds (t : CpuTopology) (s : Clusters) (ys : List ClusterPtr) (c : ClusterPtr) : LseSchedCluster :=
  if c ∈ ys then { s.cluster c with id := t.clusterId (cpumaskFirst t.nrCpuIds (s.cluster c).cpus) } else s.cluster c

theorem publish_eq {t : CpuTopology} {s : Clusters} {ys : List ClusterPtr} (ring : Ring s.links .newHead ys)
    (filled : ys ≠ []) (away : .lseClusterHead ∉ ys) (short : ys.length ≤ s.allocated)
    (count : s.numSchedClusters = ys.length) :
    ∃ l, publish t s = { s with links := l, cluster := withIds t s ys } ∧ Ring l .lseClusterHead (aligned t s ys) := by
  obtain ⟨l,same,alignedRing⟩ := alignClusters_ring (t := t) ring short count
  have perm := aligned_perm t s ys
  have visited : forEachEntry { s with links := l } .newHead = aligned t s ys :=
    walk_ring alignedRing (by rw [perm.length_eq]; exact short.trans (Nat.le_succ _))
  have distinct : (aligned t s ys).Nodup := (List.nodup_cons.mp alignedRing.2).2
  refine ⟨moveList l .lseClusterHead .newHead false,?_,moveList_ring alignedRing ?_ ?_⟩
  · rw [publish,same,assignClusterIds,visited,assignClusterIds_eq _ distinct]
    simp only [perm.mem_iff]
    rfl
  · exact fun empty => filled (List.perm_nil.mp (empty ▸ perm.symm))
  · simpa [perm.mem_iff] using away

end LunarSched.SchedCluster
