import HermesRealtime.Checks
import HermesRealtime.Saturation
import Mathlib.Data.Finset.Sort
import Mathlib.Control.Monad.Basic

/-!
The tree of processes under a root. What is read from the table of processes need not be a tree: it
is read one process after the other while processes end and their ids are used again.
-/

namespace HermesRealtime.ProcessTree

open Checks Saturation

/-- A `dict` from process ids to the ids of their parents, in the order of insertion. -/
structure ParentMap where
  entries : List (ℤ × ℤ)
  nodup : (entries.map Prod.fst).Nodup

namespace ParentMap

def empty : ParentMap := ⟨[], List.nodup_nil⟩

def pids (parents : ParentMap) : List ℤ := parents.entries.map Prod.fst

def get? (parents : ParentMap) (pid : ℤ) : Option ℤ := parents.entries.lookup pid

/-- With distinct keys every entry is the one that is found. -/
lemma mem_iff_lookup {entries : List (ℤ × ℤ)} (hnodup : (entries.map Prod.fst).Nodup)
    {pid ppid : ℤ} : (pid, ppid) ∈ entries ↔ entries.lookup pid = some ppid := by
  induction entries with
  | nil => simp
  | cons entry entries ih =>
    obtain ⟨key, value⟩ := entry
    obtain ⟨hnew, hrest⟩ := List.nodup_cons.mp hnodup
    by_cases h : pid = key
    · subst h
      have hno : (pid, ppid) ∉ entries := fun hmem => hnew (List.mem_map.mpr ⟨_, hmem, rfl⟩)
      simp [hno, eq_comm]
    · rw [List.lookup_cons, beq_false_of_ne h, ← ih hrest]
      simp [h]

lemma mem_entries_iff {parents : ParentMap} {pid ppid : ℤ} :
    (pid, ppid) ∈ parents.entries ↔ parents.get? pid = some ppid :=
  mem_iff_lookup parents.nodup

lemma pids_replace (entries : List (ℤ × ℤ)) (pid ppid : ℤ) :
    (entries.map fun entry => if entry.1 = pid then (pid, ppid) else entry).map Prod.fst =
      entries.map Prod.fst := by
  rw [List.map_map]
  refine List.map_congr_left fun entry _ => ?_
  by_cases h : entry.1 = pid <;> simp [h]

/-- `parents[pid] = ppid`: a key that is there keeps its place. -/
def set (parents : ParentMap) (pid ppid : ℤ) : ParentMap :=
  if h : pid ∈ parents.entries.map Prod.fst then
    ⟨parents.entries.map fun entry => if entry.1 = pid then (pid, ppid) else entry,
      pids_replace parents.entries pid ppid ▸ parents.nodup⟩
  else
    ⟨parents.entries ++ [(pid, ppid)], by
      rw [List.map_append]
      exact List.nodup_append'.mpr ⟨parents.nodup, List.nodup_singleton pid, by simpa using h⟩⟩

end ParentMap

/-- What reading and parsing the `stat` file of a candidate comes to. -/
inductive Reading
  | stat (pid ppid : ℤ)
  | vanished
  | failed (error : String)

structure Candidate where
  name : String
  reading : Reading

section

-- which characters are decimal
variable (isDecimal : Char → Bool)

/-- The loop over the entries of the table: what vanished while it was read is passed over. -/
def readParents : List Candidate → ParentMap → Except String ParentMap
  | [], parents => .ok parents
  | candidate :: candidates, parents =>
    if candidate.name.toList.isEmpty || ! candidate.name.toList.all isDecimal then
      readParents candidates parents
    else match candidate.reading with
      | .vanished => readParents candidates parents
      | .failed error => .error error
      | .stat pid ppid => readParents candidates (parents.set pid ppid)

/-- `tuple(sorted(selected))` after the loop that selects. -/
def selectTree (parents : ParentMap) (rootPid : ℤ) : List ℤ :=
  (grow parents.entries {rootPid}).sort (· ≤ ·)

def discoverProcessTree (rootPid : ℤ) (listing : Except String (List Candidate)) :
    Except String (List ℤ) := do
  if rootPid ≤ 0 then throw "root pid must be a positive integer"
  let parents ← readParents isDecimal (← listing) .empty
  if rootPid ∉ parents.pids then
    throw ("pid " ++ toString rootPid ++ " vanished before process-tree discovery")
  return selectTree parents rootPid

end

/-- The chain of parents of a process reaches the root. -/
inductive Reaches (parents : ParentMap) (root : ℤ) : ℤ → Prop
  | root : Reaches parents root root
  | parent {pid ppid : ℤ} (hparent : parents.get? pid = some ppid)
      (h : Reaches parents root ppid) : Reaches parents root pid

lemma reaches_iff_leads {parents : ParentMap} {root pid : ℤ} :
    Reaches parents root pid ↔ Leads parents.entries root pid := by
  constructor
  · intro h
    induction h with
    | root => exact .start
    | parent hparent _ ih => exact .link (ParentMap.mem_entries_iff.mpr hparent) ih
  · intro h
    induction h with
    | start => exact .root
    | link hmem _ ih => exact .parent (ParentMap.mem_entries_iff.mp hmem) ih

lemma mem_selectTree {parents : ParentMap} {root pid : ℤ} :
    pid ∈ selectTree parents root ↔ Reaches parents root pid := by
  rw [selectTree, Finset.mem_sort, mem_grow_iff, reaches_iff_leads]

/-- Only the root itself can be reached without being in the map. -/
lemma Reaches.mem_pids {parents : ParentMap} {root pid : ℤ} (hroot : root ∈ parents.pids)
    (h : Reaches parents root pid) : pid ∈ parents.pids := by
  cases h with
  | root => exact hroot
  | parent hparent _ => exact List.mem_map_of_mem (ParentMap.mem_entries_iff.mpr hparent)

/-- **The loop selects the descendants.** Whatever the map is like, it ends, and what it returns is
in order, without duplicates, and the same for every order of the map. -/
theorem selectTree_descendants (parents : ParentMap) {root : ℤ} (hroot : root ∈ parents.pids) :
    (selectTree parents root).Pairwise (· ≤ ·) ∧ (selectTree parents root).Nodup ∧
      (∀ pid, pid ∈ selectTree parents root ↔ pid ∈ parents.pids ∧ Reaches parents root pid) ∧
      ∀ parents' : ParentMap, parents'.entries.Perm parents.entries →
        selectTree parents' root = selectTree parents root := by
  refine ⟨Finset.pairwise_sort _ _, Finset.sort_nodup _ _, fun pid => ?_, fun parents' hperm => ?_⟩
  · rw [mem_selectTree]
    exact ⟨fun h => ⟨h.mem_pids hroot, h⟩, And.right⟩
  · rw [selectTree, selectTree, grow_perm hperm]

/-- Two processes that are each other's parent, one that is its own, and one whose parent is
gone. -/
def tangled : ParentMap where
  entries := [(4, 2), (2, 3), (3, 2), (5, 5), (6, 9)]
  nodup := by decide

theorem selectTree_tangled : 4 ∈ selectTree tangled 3 ∧ 5 ∉ selectTree tangled 3 := by
  obtain ⟨-, -, hmem, -⟩ := selectTree_descendants tangled (by decide : 3 ∈ tangled.pids)
  have hroot : ∀ pid, Reaches tangled 3 pid → pid ≠ 5 := by
    intro pid h
    induction h with
    | root => decide
    | parent hparent _ ih =>
      rintro rfl
      exact ih (Option.some.inj hparent).symm
  have hchild : Reaches tangled 3 2 := .parent (rfl : tangled.get? 2 = some 3) .root
  exact ⟨(hmem 4).mpr ⟨by decide, .parent (rfl : tangled.get? 4 = some 2) hchild⟩,
    fun h => hroot 5 ((hmem 5).mp h).2 rfl⟩

end HermesRealtime.ProcessTree
