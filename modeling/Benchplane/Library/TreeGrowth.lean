import Benchplane.Library.FileOperations

/-!
# Growing trees

A tree grows when nothing of it is lost or replaced: a file keeps its bytes, and a
directory stays one and at most gets new entries.  The operations below only let a tree
grow, relative to an older tree that had nothing where they work.
-/

namespace Benchplane
namespace Library

/-- What may become of an entry when a tree grows. -/
def Node.GrowsTo (node later : Node) : Prop :=
  later = node ∨ (∃ d, node = .directory d) ∧ ∃ d, later = .directory d

theorem Node.GrowsTo.trans {node later latest : Node} (h : node.GrowsTo later)
    (h' : later.GrowsTo latest) : node.GrowsTo latest := by
  rcases h with rfl | ⟨hnode, hlater⟩
  · exact h'
  · rcases h' with rfl | ⟨-, hlatest⟩
    · exact Or.inr ⟨hnode, hlater⟩
    · exact Or.inr ⟨hnode, hlatest⟩

namespace Directory

/-- Every entry of the old tree is in the new one. -/
def Grows (old new : Directory) : Prop :=
  ∀ path node, old.lookup path = some node → ∃ later, new.lookup path = some later ∧
    node.GrowsTo later

theorem Grows.refl (d : Directory) : d.Grows d := fun _ node h => ⟨node, h, Or.inl rfl⟩

theorem Grows.trans {old new newest : Directory} (h : old.Grows new) (h' : new.Grows newest) :
    old.Grows newest := by
  intro path node hnode
  obtain ⟨later, hlater, hgrows⟩ := h path node hnode
  obtain ⟨latest, hlatest, hgrows'⟩ := h' path later hlater
  exact ⟨latest, hlatest, hgrows.trans hgrows'⟩

/-- What is not there has not been there. -/
theorem Grows.lookup_none {old new : Directory} (h : old.Grows new) {path : List FileName}
    (hnone : new.lookup path = none) : old.lookup path = none := by
  cases hold : old.lookup path with
  | none => rfl
  | some node =>
      obtain ⟨later, hlater, -⟩ := h path node hold
      rw [hnone] at hlater
      contradiction

/-- Below a missing entry there is none. -/
theorem lookup_below_none {path other : List FileName} {d : Directory}
    (hnone : d.lookup path = none) (hother : path <+: other) : d.lookup other = none := by
  obtain ⟨rest, rfl⟩ := hother
  rw [lookup_append, hnone]
  rfl

/-- A change of one entry lets a tree grow when the old tree bears it: what the old tree has
at the entry goes on, and it has nothing below. -/
theorem Grows.atEntry {change : Option Node → Except IoError (Option Node)}
    {path : List FileName} {old d d' : Directory} (h : old.Grows d)
    (hchange : Directory.atEntry change path d = .ok d')
    (hself : ∀ node, old.lookup path = some node → ∃ later, d'.lookup path = some later ∧
      node.GrowsTo later)
    (hbelow : ∀ name rest, old.lookup (path ++ name :: rest) = none) : old.Grows d' := by
  intro other node hother
  by_cases hpath : path <+: other
  · obtain ⟨rest, rfl⟩ := hpath
    cases rest with
    | nil =>
        rw [List.append_nil] at hother ⊢
        exact hself node hother
    | cons name rest =>
        rw [hbelow name rest] at hother
        contradiction
  · by_cases habove : other <+: path
    · -- an ancestor of the entry is a directory before and behind
      obtain ⟨rest, rfl⟩ := habove
      cases rest with
      | nil => exact absurd ((List.append_nil other).symm ▸ List.prefix_rfl) hpath
      | cons name rest =>
          obtain ⟨⟨before, hbefore⟩, after, hafter⟩ := exists_directory_of_atEntry hchange
          obtain ⟨later, hlater, hgrows⟩ := h other node hother
          obtain rfl : later = .directory before := Option.some.inj (hlater.symm.trans hbefore)
          refine ⟨.directory after, hafter, Or.inr ⟨?_, after, rfl⟩⟩
          rcases hgrows with hsame | ⟨hnode, -⟩
          · exact ⟨before, hsame.symm⟩
          · exact hnode
    · rw [lookup_atEntry_frame hchange hpath habove]
      exact h other node hother

/-- A change where the old tree has nothing. -/
theorem Grows.atEntry_absent {change : Option Node → Except IoError (Option Node)}
    {path : List FileName} {old d d' : Directory} (h : old.Grows d)
    (hchange : Directory.atEntry change path d = .ok d') (habsent : old.lookup path = none) :
    old.Grows d' := by
  apply h.atEntry hchange
  · intro node hnode
    rw [habsent] at hnode
    contradiction
  · intro name rest
    exact lookup_below_none habsent (List.prefix_append _ _)

end Directory

namespace FileTree

/-- Every entry of the old tree is in the new one. -/
def Grows (old new : FileTree) : Prop := old.root.Grows new.root

theorem Grows.refl (tree : FileTree) : tree.Grows tree := Directory.Grows.refl tree.root

theorem Grows.trans {old new newest : FileTree} (h : old.Grows new) (h' : new.Grows newest) :
    old.Grows newest := Directory.Grows.trans h h'

/-- A file keeps its bytes. -/
theorem Grows.file {old new : FileTree} (h : old.Grows new) {path : List FileName}
    {content : Bytes} (hfile : old.lookup path = some (.file content)) :
    new.lookup path = some (.file content) := by
  obtain ⟨later, hlater, rfl | ⟨⟨d, hd⟩, -⟩⟩ := h path _ hfile
  · exact hlater
  · contradiction

/-- A directory stays one. -/
theorem Grows.directory {old new : FileTree} (h : old.Grows new) {path : List FileName}
    {d : Directory} (hd : old.lookup path = some (.directory d)) :
    ∃ d', new.lookup path = some (.directory d') := by
  obtain ⟨later, hlater, rfl | ⟨-, d', rfl⟩⟩ := h path _ hd
  · exact ⟨d, hlater⟩
  · exact ⟨d', hlater⟩

theorem Grows.lookup_none {old new : FileTree} (h : old.Grows new) {path : List FileName}
    (hnone : new.lookup path = none) : old.lookup path = none :=
  Directory.Grows.lookup_none h hnone

theorem lookup_below_none {path other : List FileName} {tree : FileTree}
    (hnone : tree.lookup path = none) (hother : path <+: other) : tree.lookup other = none :=
  Directory.lookup_below_none hnone hother

/-! ## Operations -/

section

variable {old tree tree' : FileTree}

/-- Making sure that a directory exists. -/
theorem Grows.ensureDirectory (h : old.Grows tree) {path : List FileName}
    (happly : (FileOperation.ensureDirectory path).apply tree = .ok tree') : old.Grows tree' := by
  have hrun := FileOperation.run_of_apply happly
  apply h.trans
  intro other node hother
  by_cases hpath : other <+: path
  · obtain ⟨rest, rfl⟩ := hpath
    cases rest with
    | nil =>
        rw [List.append_nil] at hrun
        have hself := Directory.lookup_atEntry_self hrun
        rw [hother] at hself
        cases node with
        | directory d => exact ⟨_, (Except.ok.inj hself).symm, Or.inl rfl⟩
        | file content => contradiction
        | symlink resolves => contradiction
        | special => contradiction
    | cons name rest =>
        obtain ⟨⟨before, hbefore⟩, after, hafter⟩ := Directory.exists_directory_of_atEntry hrun
        obtain rfl : node = .directory before := Option.some.inj (hother.symm.trans hbefore)
        exact ⟨.directory after, hafter, Or.inr ⟨⟨before, rfl⟩, after, rfl⟩⟩
  · have hsame : tree'.lookup other = tree.lookup other := lookup_ensureDirectory happly hpath
    exact ⟨node, hsame.trans hother, Or.inl rfl⟩

/-- An operation that names only paths where the old tree has nothing. -/
theorem Grows.apply_absent (h : old.Grows tree) {op : FileOperation}
    (happly : op.apply tree = .ok tree') (habsent : ∀ path ∈ op.scope, old.lookup path = none) :
    old.Grows tree' := by
  have hrun := FileOperation.run_of_apply happly
  cases op with
  | createDirectory path | ensureDirectory path | createFile path | append path bytes =>
      exact Directory.Grows.atEntry_absent h hrun (habsent path (by simp [FileOperation.scope]))
  | rename source target =>
      have hsource := habsent source (by simp [FileOperation.scope])
      have htarget := habsent target (by simp [FileOperation.scope])
      obtain ⟨node, -, ⟨-, hsame⟩ | ⟨-, -, mid, hmid, hremove⟩⟩ := FileOperation.rename_eq_ok hrun
      · show old.root.Grows tree'.root
        rw [hsame]
        exact h
      · exact (Directory.Grows.atEntry_absent h hmid htarget).atEntry_absent hremove hsource

/-- A directory stays one when everything that is changed is strictly below it. -/
theorem directory_of_apply_below {ancestor : List FileName} {d : Directory} {op : FileOperation}
    (happly : op.apply tree = .ok tree') (hd : tree.lookup ancestor = some (.directory d))
    (hbelow : ∀ path ∈ op.scope, ∃ name rest, path = ancestor ++ name :: rest) :
    ∃ d', tree'.lookup ancestor = some (.directory d') := by
  have hrun := FileOperation.run_of_apply happly
  -- a change below the ancestor goes through it
  have hstep : ∀ {change : Option Node → Except IoError (Option Node)} {path : List FileName}
      {e e' : Directory}, path ∈ op.scope → Directory.atEntry change path e = .ok e' →
      ∃ d', e'.lookup ancestor = some (.directory d') := by
    intro change path e e' hpath hchange
    obtain ⟨name, rest, rfl⟩ := hbelow path hpath
    exact (Directory.exists_directory_of_atEntry hchange).2
  cases op with
  | createDirectory path | ensureDirectory path | createFile path | append path bytes =>
      exact hstep (by simp [FileOperation.scope]) hrun
  | rename source target =>
      obtain ⟨node, -, ⟨-, hsame⟩ | ⟨-, -, mid, -, hremove⟩⟩ := FileOperation.rename_eq_ok hrun
      · refine ⟨d, ?_⟩
        show tree'.root.lookup ancestor = _
        rw [hsame]
        exact hd
      · exact hstep (by simp [FileOperation.scope]) hremove

/-- A directory that the old tree does not have is renamed: it replaces at most an empty
directory. -/
theorem Grows.rename_directory (h : old.Grows tree) {source target : List FileName}
    {d : Directory} (happly : (FileOperation.rename source target).apply tree = .ok tree')
    (hdirectory : tree.lookup source = some (.directory d)) (habsent : old.lookup source = none) :
    old.Grows tree' := by
  change tree.root.lookup source = some (.directory d) at hdirectory
  obtain ⟨node, hnode, ⟨-, hsame⟩ | ⟨-, -, mid, hmid, hremove⟩⟩ :=
    FileOperation.rename_eq_ok (FileOperation.run_of_apply happly)
  · show old.root.Grows tree'.root
    rw [hsame]
    exact h
  · obtain rfl : Node.directory d = node := Option.some.inj (hdirectory.symm.trans hnode)
    have hself := Directory.lookup_atEntry_self hmid
    refine (Directory.Grows.atEntry h hmid ?_ ?_).atEntry_absent hremove habsent
    · intro node hnode
      obtain ⟨later, hlater, hgrows⟩ := h target node hnode
      rw [hlater] at hself
      -- only a directory gives way, to the directory that is renamed
      cases later with
      | directory there =>
          have hnodeDirectory : ∃ e, node = .directory e := by
            rcases hgrows with hsame | ⟨hnode, -⟩
            · exact ⟨there, hsame.symm⟩
            · exact hnode
          cases there with
          | empty =>
              exact ⟨.directory d, (Except.ok.inj hself).symm, Or.inr ⟨hnodeDirectory, d, rfl⟩⟩
          | entry first other rest => contradiction
      | file content => contradiction
      | symlink resolves => contradiction
      | special => contradiction
    · intro name rest
      cases hold : old.root.lookup (target ++ name :: rest) with
      | none => rfl
      | some node =>
          obtain ⟨later, hlater, -⟩ := h _ node hold
          rw [Directory.lookup_append] at hlater
          obtain ⟨there, hthere, hbelow⟩ := Option.bind_eq_some_iff.mp hlater
          cases there with
          | directory e =>
              obtain ⟨child, hchild, -⟩ := Option.bind_eq_some_iff.mp hbelow
              rw [hthere] at hself
              exact absurd hself (Change.replaceBy_directory_ne_ok hchild _)
          | file content => contradiction
          | symlink resolves => contradiction
          | special => contradiction

/-- No rename goes where, at its target or below, a directory has an entry. -/
theorem rename_below_ne_ok {source target path : List FileName} {d : Directory}
    {name : FileName} {child : Node} (hd : tree.lookup path = some (.directory d))
    (hchild : d.find? name = some child) (hpath : target <+: path)
    (happly : (FileOperation.rename source target).apply tree = .ok tree') :
    source = target := by
  have hrun := FileOperation.run_of_apply happly
  -- the target holds a directory with an entry itself
  obtain ⟨there, first, other, hthere, hother⟩ : ∃ there first other,
      tree.root.lookup target = some (.directory there) ∧ there.find? first = some other := by
    obtain ⟨rest, rfl⟩ := hpath
    cases rest with
    | nil => exact ⟨d, name, child, List.append_nil target ▸ hd, hchild⟩
    | cons first rest =>
        rw [lookup_append] at hd
        obtain ⟨node, hnode, hbelow⟩ := Option.bind_eq_some_iff.mp hd
        cases node with
        | directory there =>
            obtain ⟨other, hother, -⟩ := Option.bind_eq_some_iff.mp hbelow
            exact ⟨there, first, other, hnode, hother⟩
        | file content => contradiction
        | symlink resolves => contradiction
        | special => contradiction
  obtain ⟨node, -, ⟨hsame, -⟩ | ⟨-, -, mid, hmid, -⟩⟩ := FileOperation.rename_eq_ok hrun
  · exact hsame
  · have hself := Directory.lookup_atEntry_self hmid
    rw [hthere] at hself
    exact absurd hself (Change.replaceBy_directory_ne_ok hother _)

end

end FileTree

end Library
end Benchplane
