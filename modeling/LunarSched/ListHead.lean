import Mathlib.Data.List.Basic
import Mathlib.Data.List.Nodup
import Mathlib.Logic.Function.Basic

/-!
Circular doubly linked lists with a head, linked through their nodes (`struct list_head`).
`Links` is the memory, `next` and `prev` of every node; the operations write it as the
kernel's inline functions do. `Ring` says that the nodes of a list are linked to each other
and to the head in both directions; the rules say what every operation makes of a ring.
-/
namespace LunarSched.ListHead

/-- The pointers of all nodes. -/
structure Links (α : Type*) where
  next : α → α
  prev : α → α

variable {α : Type*}

/-- The same memory with the directions exchanged. -/
def Links.flip (l : Links α) : Links α := ⟨l.prev,l.next⟩

section
variable [DecidableEq α]

def Links.setNext (l : Links α) (n target : α) : Links α := { l with next := Function.update l.next n target }
def Links.setPrev (l : Links α) (n target : α) : Links α := { l with prev := Function.update l.prev n target }

/-- `INIT_LIST_HEAD`. -/
def initListHead (l : Links α) (head : α) : Links α := (l.setNext head head).setPrev head head

/-- `__list_add`. -/
def listAddBetween (l : Links α) (new prev next : α) : Links α :=
  (((l.setPrev next new).setNext new next).setPrev new prev).setNext prev new

def listAdd (l : Links α) (new head : α) : Links α := listAddBetween l new head (l.next head)

/-- `__list_del_entry`. -/
def listUnlink (l : Links α) (entry : α) : Links α :=
  (l.setPrev (l.next entry) (l.prev entry)).setNext (l.prev entry) (l.next entry)

/-- `list_del`, which poisons the node's own pointers. -/
def listDel (poison : α × α) (l : Links α) (entry : α) : Links α :=
  ((listUnlink l entry).setNext entry poison.1).setPrev entry poison.2

def listReplace (l : Links α) (old new : α) : Links α :=
  let l := l.setNext new (l.next old)
  let l := l.setPrev (l.next new) new
  let l := l.setPrev new (l.prev old)
  l.setNext (l.prev new) new

def listSwap (poison : α × α) (l : Links α) (entry1 entry2 : α) : Links α :=
  let pos := l.prev entry2
  let l := listDel poison l entry2
  let l := listReplace l entry1 entry2
  listAdd l entry1 (if pos = entry1 then entry2 else pos)

/-- The nodes that an iteration from `n` visits before it is back at the head, within
    `fuel` steps. -/
def walk (l : Links α) (head : α) : ℕ → α → List α
  | 0, _ => []
  | fuel + 1, n => if l.next n = head then [] else l.next n :: walk l head fuel (l.next n)

end

/-- From `a` the nodes of the list follow each other and then `b` does, linked both ways. -/
def Path (l : Links α) : α → List α → α → Prop
  | a, [], b => l.next a = b ∧ l.prev b = a
  | a, x :: xs, b => l.next a = x ∧ l.prev x = a ∧ Path l x xs b

section
variable {l m : Links α} {a b c : α} {xs ys : List α}

theorem path_append : Path l a (xs ++ b :: ys) c ↔ Path l a xs b ∧ Path l b ys c := by
  induction xs generalizing a with
  | nil => simp [Path,and_assoc]
  | cons x xs ih => simp [Path,ih,and_assoc]

/-- A path depends on the `next` of its nodes but the last and the `prev` of those but the first. -/
theorem path_congr (next : ∀ n ∈ a :: xs, m.next n = l.next n) (prev : ∀ n ∈ xs ++ [b], m.prev n = l.prev n)
    (path : Path l a xs b) : Path m a xs b := by
  induction xs generalizing a with
  | nil =>
    refine ⟨?_,?_⟩
    · rw [next a (by simp)]
      exact path.1
    · rw [prev b (by simp)]
      exact path.2
  | cons x xs ih =>
    obtain ⟨first,back,rest⟩ := path
    refine ⟨?_,?_,ih ?_ ?_ rest⟩
    · rw [next a (by simp)]
      exact first
    · rw [prev x (by simp)]
      exact back
    · exact fun n member => next n (List.mem_cons_of_mem _ member)
    · exact fun n member => prev n (List.mem_cons_of_mem _ member)

theorem path_flip (path : Path l a xs b) : Path l.flip b xs.reverse a := by
  induction xs generalizing a with
  | nil => exact ⟨path.2,path.1⟩
  | cons x xs ih =>
    obtain ⟨first,back,rest⟩ := path
    rw [List.reverse_cons,path_append]
    exact ⟨ih rest,back,first⟩

/-- The first node of a path, and the last one, as the pointers have them. -/
theorem path_next (path : Path l a xs b) : l.next a = (xs ++ [b]).head (by simp) := by
  cases xs with
  | nil => exact path.1
  | cons x xs => exact path.1

theorem path_next_mem (path : Path l a xs b) : l.next a ∈ xs ++ [b] := path_next path ▸ List.head_mem _

/-- A path may start from another node that is linked to its first one. -/
theorem path_reroot (path : Path l a xs b) (first : m.next c = l.next a) (back : m.prev (l.next a) = c)
    (next : ∀ n ∈ xs, m.next n = l.next n) (prev : ∀ n ∈ (xs ++ [b]).tail, m.prev n = l.prev n) : Path m c xs b := by
  cases xs with
  | nil => exact ⟨first.trans path.1,path.1 ▸ back⟩
  | cons x xs => exact ⟨first.trans path.1,path.1 ▸ back,path_congr next prev path.2.2⟩

theorem path_next_ne (path : Path l a xs b) (distinct : (xs ++ [b]).Nodup) : ∀ n ∈ (xs ++ [b]).tail, n ≠ l.next a := by
  rw [path_next path]
  rintro n later rfl
  rw [← List.cons_head_tail (l := xs ++ [b]) (by simp)] at distinct
  exact (List.nodup_cons.mp distinct).1 later

/-- An iteration visits the nodes of a path up to the head. -/
theorem walk_path [DecidableEq α] (path : Path l a xs b) (away : b ∉ xs) {fuel : ℕ} (enough : xs.length ≤ fuel) :
    walk l b fuel a = xs := by
  induction xs generalizing a fuel with
  | nil =>
    cases fuel with
    | zero => rfl
    | succ fuel => rw [walk,if_pos path.1]
  | cons x xs ih =>
    obtain ⟨first,_,rest⟩ := path
    cases fuel with
    | zero => simp at enough
    | succ fuel =>
      rw [List.mem_cons,not_or] at away
      rw [walk,first,if_neg (Ne.symm away.1),ih rest away.2 (by simpa using enough)]

end

/-! ### Rings -/

/-- The list with this head has these nodes. -/
def Ring (l : Links α) (head : α) (xs : List α) : Prop := Path l head xs head ∧ (head :: xs).Nodup

section
variable {l m : Links α} {h p n e new old : α} {xs ys : List α}

theorem ring_congr (ring : Ring l h xs) (same : ∀ n ∈ h :: xs, m.next n = l.next n ∧ m.prev n = l.prev n) :
    Ring m h xs := by
  refine ⟨path_congr (fun n member => (same n member).1) (fun n member => (same n ?_).2) ring.1,ring.2⟩
  simpa [or_comm] using member

/-- Any node of a ring can be taken for its head. -/
theorem ring_rotate (ring : Ring l h (xs ++ p :: ys)) : Ring l p (ys ++ h :: xs) := by
  obtain ⟨path,distinct⟩ := ring
  obtain ⟨before,after⟩ := path_append.mp path
  refine ⟨path_append.mpr ⟨after,before⟩,?_⟩
  have same : (p :: (ys ++ h :: xs)).Perm (h :: (xs ++ p :: ys)) := @List.perm_append_comm _ (p :: ys) (h :: xs)
  exact same.nodup_iff.mpr distinct

theorem nodup_concat (distinct : (h :: xs).Nodup) : (xs ++ [h]).Nodup := by
  have same : (xs ++ [h]).Perm (h :: xs) := List.perm_append_comm
  exact same.nodup_iff.mpr distinct

theorem ring_flip (ring : Ring l h xs) : Ring l.flip h xs.reverse := by
  refine ⟨path_flip ring.1,?_⟩
  have same : (h :: xs.reverse).Perm (h :: xs) := (List.reverse_perm xs).cons h
  exact same.nodup_iff.mpr ring.2

theorem ring_next_mem (ring : Ring l h xs) (member : n ∈ h :: xs) : l.next n ∈ h :: xs := by
  rcases List.mem_cons.mp member with rfl | inside
  · simpa [or_comm] using path_next_mem ring.1
  · obtain ⟨us,vs,rfl⟩ := List.append_of_mem inside
    have next := path_next_mem (path_append.mp ring.1).2
    simp only [List.mem_append,List.mem_singleton] at next
    simp only [List.mem_cons,List.mem_append]
    tauto

theorem ring_prev_mem (ring : Ring l h xs) (member : n ∈ h :: xs) : l.prev n ∈ h :: xs := by
  have flipped := ring_next_mem (ring_flip ring) (n := n) (by simpa using member)
  simpa [Links.flip] using flipped

theorem ring_first (ring : Ring l h xs) (filled : xs ≠ []) : xs.head? = some (l.next h) := by
  obtain ⟨x,rest,rfl⟩ := List.exists_cons_of_ne_nil filled
  exact congrArg Option.some ring.1.1.symm

theorem ring_last (ring : Ring l h xs) (filled : xs ≠ []) : xs.getLast? = some (l.prev h) := by
  rw [← List.head?_reverse]
  exact ring_first (ring_flip ring) (by simpa using filled)

variable [DecidableEq α]

/-- An iteration over a ring visits its nodes in order, and one backwards in reverse. -/
theorem walk_ring (ring : Ring l h xs) {fuel : ℕ} (enough : xs.length ≤ fuel) : walk l h fuel h = xs :=
  walk_path ring.1 (List.nodup_cons.mp ring.2).1 enough

theorem initListHead_ring (l : Links α) (h : α) : Ring (initListHead l h) h [] := by
  simp [Ring,Path,initListHead,Links.setNext,Links.setPrev]

theorem initListHead_other (l : Links α) {other : α} (away : other ≠ n) :
    (initListHead l n).next other = l.next other ∧ (initListHead l n).prev other = l.prev other := by
  simp [initListHead,Links.setNext,Links.setPrev,away]

theorem ring_init_other (ring : Ring l h xs) (away : n ∉ h :: xs) : Ring (initListHead l n) h xs :=
  ring_congr ring (fun _ member => initListHead_other l (ne_of_mem_of_not_mem member away))

theorem listAdd_next (l : Links α) (new p n : α) :
    (listAdd l new p).next n = if n = p then new else if n = new then l.next p else l.next n := by
  simp [listAdd,listAddBetween,Links.setNext,Links.setPrev,Function.update_apply]

theorem listAdd_prev (l : Links α) (new p n : α) :
    (listAdd l new p).prev n = if n = new then p else if n = l.next p then new else l.prev n := by
  simp [listAdd,listAddBetween,Links.setNext,Links.setPrev,Function.update_apply]

theorem ring_add (ring : Ring l h xs) (fresh : new ∉ h :: xs) : Ring (listAdd l new h) h (new :: xs) := by
  have target := ring_next_mem ring List.mem_cons_self
  obtain ⟨path,distinct⟩ := ring
  obtain ⟨away,apart⟩ := not_or.mp (List.mem_cons.not.mp fresh)
  obtain ⟨outside,inside⟩ := List.nodup_cons.mp distinct
  refine ⟨⟨?_,?_,path_reroot path ?_ ?_ ?_ ?_⟩,?_⟩
  · rw [listAdd_next,if_pos rfl]
  · rw [listAdd_prev,if_pos rfl]
  · rw [listAdd_next,if_neg away,if_pos rfl]
  · rw [listAdd_prev,if_neg (ne_of_mem_of_not_mem target fresh),if_pos rfl]
  · intro n member
    rw [listAdd_next,if_neg (ne_of_mem_of_not_mem member outside),if_neg (ne_of_mem_of_not_mem member apart)]
  · intro n later
    have member : n ∈ xs ++ [h] := List.mem_of_mem_tail later
    have other := path_next_ne path (nodup_concat distinct) n later
    rw [listAdd_prev,if_neg ?_,if_neg other]
    rintro rfl
    exact fresh (by simpa [or_comm] using member)
  · exact List.nodup_cons.mpr ⟨by simp [Ne.symm away,outside],List.nodup_cons.mpr ⟨apart,inside⟩⟩

/-- A node that is added after another one follows it. -/
theorem ring_add_after (ring : Ring l h (xs ++ p :: ys)) (fresh : new ∉ h :: (xs ++ p :: ys)) :
    Ring (listAdd l new p) h (xs ++ p :: new :: ys) := by
  have fresh' : new ∉ p :: (ys ++ h :: xs) := by
    simp only [List.mem_cons,List.mem_append] at fresh ⊢
    tauto
  exact ring_rotate (ring_add (ring_rotate ring) fresh')

/-- A node that is added after the last of some first nodes, or after the head, stands
    between them and the others. -/
theorem ring_add_between (ring : Ring l h (xs ++ ys)) (fresh : new ∉ h :: (xs ++ ys)) :
    Ring (listAdd l new (xs.getLastD h)) h (xs ++ new :: ys) := by
  rcases List.eq_nil_or_concat xs with rfl | ⟨us,p,rfl⟩
  · exact ring_add ring fresh
  · rw [List.concat_eq_append,List.append_assoc] at ring fresh ⊢
    rw [List.getLastD_concat]
    exact ring_add_after ring fresh

/-- An addition to a ring leaves other nodes alone. -/
theorem listAdd_other (ring : Ring l h xs) (member : p ∈ h :: xs) {other : α} (away : other ∉ h :: xs)
    (old : other ≠ new) : (listAdd l new p).next other = l.next other ∧ (listAdd l new p).prev other = l.prev other := by
  rw [listAdd_next,listAdd_prev,if_neg (ne_of_mem_of_not_mem member away).symm,if_neg old,if_neg old,
    if_neg (ne_of_mem_of_not_mem (ring_next_mem ring member) away).symm]
  exact ⟨rfl,rfl⟩

theorem listUnlink_next (l : Links α) (e n : α) :
    (listUnlink l e).next n = if n = l.prev e then l.next e else l.next n := by
  simp [listUnlink,Links.setNext,Links.setPrev,Function.update_apply]

theorem listUnlink_prev (l : Links α) (e n : α) :
    (listUnlink l e).prev n = if n = l.next e then l.prev e else l.prev n := by
  simp [listUnlink,Links.setNext,Links.setPrev,Function.update_apply]

theorem listDel_next (poison : α × α) (l : Links α) (e n : α) :
    (listDel poison l e).next n = if n = e then poison.1 else (listUnlink l e).next n := by
  simp [listDel,Links.setNext,Links.setPrev,Function.update_apply]

theorem listDel_prev (poison : α × α) (l : Links α) (e n : α) :
    (listDel poison l e).prev n = if n = e then poison.2 else (listUnlink l e).prev n := by
  simp [listDel,Links.setNext,Links.setPrev,Function.update_apply]

theorem ring_unlink_first (ring : Ring l h (e :: xs)) : Ring (listUnlink l e) h xs := by
  obtain ⟨⟨_,back,path⟩,distinct⟩ := ring
  have outside : h ∉ xs := fun member => (List.nodup_cons.mp distinct).1 (List.mem_cons_of_mem _ member)
  have apart : (h :: xs).Nodup := List.nodup_cons.mpr ⟨outside,(List.nodup_cons.mp (List.nodup_cons.mp distinct).2).2⟩
  refine ⟨path_reroot path ?_ ?_ ?_ ?_,apart⟩
  · rw [listUnlink_next,if_pos back.symm]
  · rw [listUnlink_prev,if_pos rfl,back]
  · intro n member
    rw [listUnlink_next,back,if_neg (ne_of_mem_of_not_mem member outside)]
  · intro n later
    rw [listUnlink_prev,if_neg (path_next_ne path (nodup_concat apart) n later)]

/-- A node that is deleted is gone, and its neighbours are linked to each other. -/
theorem ring_del (poison : α × α) (ring : Ring l h (xs ++ e :: ys)) : Ring (listDel poison l e) h (xs ++ ys) := by
  have outside : e ∉ h :: (xs ++ ys) := by
    have distinct := (ring_rotate ring).2
    simp only [List.nodup_cons,List.mem_append,List.mem_cons] at distinct ⊢
    tauto
  have unlinked : Ring (listUnlink l e) h (xs ++ ys) := by
    rcases List.eq_nil_or_concat xs with rfl | ⟨us,p,rfl⟩
    · exact ring_unlink_first ring
    · rw [List.concat_eq_append,List.append_assoc] at ring ⊢
      exact ring_rotate (ring_unlink_first (ring_rotate ring))
  refine ring_congr unlinked (fun n member => ?_)
  have apart := ne_of_mem_of_not_mem member outside
  rw [listDel_next,listDel_prev,if_neg apart,if_neg apart]
  exact ⟨rfl,rfl⟩

/-- A deletion from a ring leaves other nodes alone. -/
theorem listDel_other (poison : α × α) (ring : Ring l h xs) (member : e ∈ h :: xs) {other : α} (away : other ∉ h :: xs) :
    (listDel poison l e).next other = l.next other ∧ (listDel poison l e).prev other = l.prev other := by
  rw [listDel_next,listDel_prev,listUnlink_next,listUnlink_prev,if_neg (ne_of_mem_of_not_mem member away).symm,
    if_neg (ne_of_mem_of_not_mem member away).symm,if_neg (ne_of_mem_of_not_mem (ring_prev_mem ring member) away).symm,
    if_neg (ne_of_mem_of_not_mem (ring_next_mem ring member) away).symm]
  exact ⟨rfl,rfl⟩

theorem listReplace_next (l : Links α) (linked : l.next old ≠ old) (n : α) :
    (listReplace l old new).next n = if n = l.prev old then new else if n = new then l.next old else l.next n := by
  simp [listReplace,Links.setNext,Links.setPrev,Function.update_apply,Ne.symm linked]

theorem listReplace_prev (l : Links α) (linked : l.next old ≠ old) (n : α) :
    (listReplace l old new).prev n = if n = new then l.prev old else if n = l.next old then new else l.prev n := by
  simp [listReplace,Links.setNext,Links.setPrev,Function.update_apply,Ne.symm linked]

theorem ring_replace_first (ring : Ring l h (old :: xs)) (fresh : new ∉ h :: old :: xs) :
    Ring (listReplace l old new) h (new :: xs) := by
  obtain ⟨⟨_,back,path⟩,distinct⟩ := ring
  have outside : h ∉ xs := fun member => (List.nodup_cons.mp distinct).1 (List.mem_cons_of_mem _ member)
  have inside := (List.nodup_cons.mp (List.nodup_cons.mp distinct).2)
  have apart : (h :: xs).Nodup := List.nodup_cons.mpr ⟨outside,inside.2⟩
  have linked : l.next old ≠ old := by
    refine ne_of_mem_of_not_mem (path_next_mem path) ?_
    simp only [List.mem_append,List.mem_singleton,not_or]
    exact ⟨inside.1,fun same => (List.nodup_cons.mp distinct).1 (same ▸ List.mem_cons_self)⟩
  simp only [List.mem_cons,not_or] at fresh
  obtain ⟨notHead,notOld,notIn⟩ := fresh
  have target : l.next old ≠ new := by
    refine ne_of_mem_of_not_mem (path_next_mem path) ?_
    simp only [List.mem_append,List.mem_singleton,not_or]
    exact ⟨notIn,notHead⟩
  have next : ∀ n, (listReplace l old new).next n = _ := listReplace_next l linked
  have prev : ∀ n, (listReplace l old new).prev n = _ := listReplace_prev l linked
  refine ⟨⟨?_,?_,path_reroot path ?_ ?_ ?_ ?_⟩,?_⟩
  · rw [next,if_pos back.symm]
  · rw [prev,if_pos rfl,back]
  · rw [next,back,if_neg notHead,if_pos rfl]
  · rw [prev,if_neg target,if_pos rfl]
  · intro n member
    rw [next,back,if_neg (ne_of_mem_of_not_mem member outside),if_neg (ne_of_mem_of_not_mem member notIn)]
  · intro n later
    have member : n ∈ xs ++ [h] := List.mem_of_mem_tail later
    rw [prev,if_neg ?_,if_neg (path_next_ne path (nodup_concat apart) n later)]
    rintro rfl
    simp only [List.mem_append,List.mem_singleton] at member
    exact member.elim notIn notHead
  · exact List.nodup_cons.mpr ⟨by simp [Ne.symm notHead,outside],List.nodup_cons.mpr ⟨notIn,inside.2⟩⟩

/-- A node takes the place of another one. -/
theorem ring_replace (ring : Ring l h (xs ++ old :: ys)) (fresh : new ∉ h :: (xs ++ old :: ys)) :
    Ring (listReplace l old new) h (xs ++ new :: ys) := by
  rcases List.eq_nil_or_concat xs with rfl | ⟨us,p,rfl⟩
  · exact ring_replace_first ring fresh
  · rw [List.concat_eq_append,List.append_assoc] at ring fresh ⊢
    have fresh' : new ∉ p :: old :: (ys ++ h :: us) := by
      simp only [List.mem_cons,List.mem_append,List.singleton_append] at fresh ⊢
      tauto
    exact ring_rotate (ring_replace_first (ring_rotate ring) fresh')

/-- Two neighbours trade places. -/
theorem ring_swap (poison : α × α) {a b : α} (ring : Ring l h (xs ++ a :: b :: ys)) :
    Ring (listSwap poison l a b) h (xs ++ b :: a :: ys) := by
  have before : l.prev b = a := (path_append.mp ring.1).2.2.1
  have distinct := ring.2
  simp only [List.nodup_cons,List.nodup_append,List.mem_append,List.mem_cons] at distinct
  have deleted : Ring (listDel poison l b) h (xs ++ a :: ys) := by
    have split : xs ++ a :: b :: ys = (xs ++ [a]) ++ b :: ys := by simp
    rw [split] at ring
    simpa using ring_del poison ring
  have replaced : Ring (listReplace (listDel poison l b) a b) h (xs ++ b :: ys) := by
    refine ring_replace deleted ?_
    simp only [List.mem_cons,List.mem_append]
    grind
  rw [listSwap,before,if_pos rfl]
  refine ring_add_after replaced ?_
  simp only [List.mem_cons,List.mem_append]
  grind

end

end LunarSched.ListHead
