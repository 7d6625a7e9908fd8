import Benchplane.Disk
import Benchplane.Library.TreePaths
import Mathlib.Data.List.Infix

/-!
# A working disk

On a disk where no operation fails by itself, an operation that the tree allows goes
through.  A triple whose failing end is arbitrary then says that the program succeeds.
-/

namespace Benchplane

open Library

/-- No operation fails by itself. -/
def noFaults : Faults := fun _ => none

namespace Disk

variable {ρ ε α : Type} {pre : DiskWorld → ρ → Prop} {failed : ε → DiskWorld → ρ → Prop}

/-- An operation that the tree allows goes through. -/
theorem succeeds_performAs {label : Operation} {operation : FileOperation}
    {failure : IoError → ε} {post : Unit → DiskWorld → ρ → Prop}
    (h : ∀ w v, pre w v → ∃ tree, operation.apply w.store = .ok tree ∧
      post () { w with store := tree, history := ⟨label, true, tree⟩ :: w.history } v) :
    Triple noFaults pre (performAs label operation failure : DiskProgram ρ ε Unit) post
      failed := by
  intro w v hpre
  obtain ⟨tree, happly, hpost⟩ := h w v hpre
  simp only [performAs, Program.perform, noFaults, happly]
  exact hpost

/-- A look that the tree allows goes through. -/
theorem succeeds_read {path : List FileName} {failure : IoError → ε}
    {look : FileTree → Except ε α} {post : α → DiskWorld → ρ → Prop}
    (h : ∀ w v, pre w v → ∃ a, look w.store = .ok a ∧
      post a { w with history := ⟨.read path, true, w.store⟩ :: w.history } v) :
    Triple noFaults pre (read path failure look : DiskProgram ρ ε α) post failed := by
  intro w v hpre
  obtain ⟨a, hlook, hpost⟩ := h w v hpre
  simp only [read, Program.perform, noFaults, hlook]
  exact hpost

/-- Looking whether a path exists tells whether it does. -/
theorem succeeds_pathExists {path : List FileName} {post : Bool → DiskWorld → ρ → Prop}
    (h : ∀ w v, pre w v → post (w.store.exists path)
      { w with history := ⟨.read path, true, w.store⟩ :: w.history } v) :
    Triple noFaults pre (pathExists path : DiskProgram ρ ε Bool) post failed := by
  apply Triple.unfailing
  apply succeeds_read
  intro w v hpre
  exact ⟨_, rfl, h w v hpre⟩

end Disk

/-! ## Making directories -/

/-- What making all the directories of a path changes. -/
structure Opened (path : List FileName) (disk tree : FileTree) : Prop where
  directories : ∀ ancestor, ancestor <+: path → ∃ d, tree.lookup ancestor = some (.directory d)
  others : ∀ other, ¬ other <+: path → tree.lookup other = disk.lookup other

/-- The directories of a path down to some depth are there, and nothing else has changed. -/
structure OpenedTo (depth : Nat) (path : List FileName) (disk tree : FileTree) : Prop where
  directories : ∀ ancestor, ancestor <+: path → ancestor.length ≤ depth →
    ∃ d, tree.lookup ancestor = some (.directory d)
  others : ∀ other, (other <+: path → depth < other.length) →
    tree.lookup other = disk.lookup other

theorem OpenedTo.zero (path : List FileName) (disk : FileTree) : OpenedTo 0 path disk disk where
  directories ancestor _ hlength := by
    obtain rfl : ancestor = [] := List.length_eq_zero_iff.mp (by omega)
    exact ⟨disk.root, Directory.lookup_nil _⟩
  others _ _ := rfl

/-- One more directory. -/
theorem OpenedTo.step {depth : Nat} {path : List FileName} {disk tree : FileTree}
    (h : OpenedTo depth path disk tree) (hdepth : depth < path.length)
    (hfree : disk.lookup (path.take (depth + 1)) = none ∨
      ∃ d, disk.lookup (path.take (depth + 1)) = some (.directory d)) :
    ∃ tree', (FileOperation.ensureDirectory (path.take (depth + 1))).apply tree = .ok tree' ∧
      OpenedTo (depth + 1) path disk tree' := by
  have hlength : (path.take (depth + 1)).length = depth + 1 := by
    rw [List.length_take]
    omega
  have hbelow : (path.take (depth + 1)) <+: path := List.take_prefix _ _
  have hsplit : path.take (depth + 1) = path.take depth ++ [path[depth]] := by
    rw [List.take_add_one, List.getElem?_eq_getElem hdepth]
    rfl
  obtain ⟨d, hparent⟩ := h.directories (path.take depth) (List.take_prefix _ _)
    (by rw [List.length_take]; omega)
  rw [← h.others _ fun _ => by omega] at hfree
  obtain ⟨tree', happly⟩ : ∃ tree',
      (FileOperation.ensureDirectory (path.take (depth + 1))).apply tree = .ok tree' := by
    rw [hsplit] at hfree ⊢
    exact FileTree.exists_ensureDirectory hparent hfree
  refine ⟨tree', happly, ?_, ?_⟩
  · intro ancestor hancestor hshort
    have hprefix : ancestor <+: path.take (depth + 1) :=
      List.prefix_of_prefix_length_le hancestor hbelow (by omega)
    obtain ⟨d', hself⟩ := FileTree.lookup_ensureDirectory_self happly
    obtain ⟨rest, hrest⟩ := hprefix
    cases rest with
    | nil =>
        rw [List.append_nil] at hrest
        exact ⟨d', hrest ▸ hself⟩
    | cons name rest =>
        rw [← hrest] at hself
        exact FileTree.exists_directory_of_lookup hself
  · intro other hother
    rw [FileTree.lookup_ensureDirectory happly, h.others]
    · intro hpath
      have hlong := hother hpath
      omega
    · intro hstarts
      have hlong := hother (hstarts.trans hbelow)
      have hshort := hstarts.length_le
      omega

/-- All the directories of a path are made where they are missing. -/
theorem Disk.succeeds_createDirAll {ρ ε : Type} {path : List FileName} {failure : IoError → ε}
    {failed : ε → DiskWorld → ρ → Prop} {disk : FileTree}
    (hfree : ∀ ancestor, ancestor <+: path → disk.lookup ancestor = none ∨
      ∃ d, disk.lookup ancestor = some (.directory d)) :
    Triple noFaults (fun w _ => w.store = disk)
      (Disk.createDirAll path failure : DiskProgram ρ ε Unit)
      (fun _ w _ => Opened path disk w.store) failed := by
  have hloop : Triple noFaults (fun w _ => OpenedTo 0 path disk w.store)
      (Disk.createDirAll path failure : DiskProgram ρ ε Unit)
      (fun _ w _ => OpenedTo path.length path disk w.store) failed := by
    refine (Triple.forEach (fun done _ w _ => OpenedTo done.length path disk w.store)
      fun done ancestor rest hitems => ?_).conseq (fun _ _ h => h) ?_ fun _ _ _ h => h
    · -- the next directory is the prefix of the path that is one longer
      have hlong : done.length + 1 < path.inits.length := by
        have hlengths := congrArg List.length hitems
        simp only [List.length_tail, List.length_append, List.length_cons] at hlengths
        omega
      have hdepth : done.length < path.length := by
        rw [List.length_inits] at hlong
        omega
      obtain rfl : ancestor = path.take (done.length + 1) := by
        rw [← List.getElem_inits path (done.length + 1) hlong]
        have hitem : path.inits.tail[done.length]? = some ancestor := by
          rw [hitems]
          simp
        rw [List.getElem?_tail, List.getElem?_eq_getElem hlong] at hitem
        exact (Option.some.inj hitem).symm
      apply Disk.succeeds_performAs
      intro w v h
      obtain ⟨tree, happly, hstep⟩ := h.step hdepth (hfree _ (List.take_prefix _ _))
      refine ⟨tree, happly, ?_⟩
      rw [List.length_append]
      exact hstep
    · intro _ w _ h
      simpa [List.length_inits] using h
  refine hloop.conseq (fun w _ h => ?_) (fun _ w _ h => ?_) fun _ _ _ h => h
  · rw [h]
    exact OpenedTo.zero path disk
  · refine ⟨fun ancestor hancestor => h.directories ancestor hancestor hancestor.length_le, ?_⟩
    intro other hother
    exact h.others other fun hpath => absurd hpath hother

end Benchplane
