import Benchplane.Library.FileOperations
import Mathlib.Data.List.Perm.Subperm

/-!
# The paths of a tree

Every entry of a tree has one path, so a tree whose entries are all at known paths has at
most as many entries.  A change of one entry goes through when its directory is there and
the entry allows it.
-/

namespace Benchplane
namespace Library

/-! ## Entries by their paths -/

/-- The paths of the entries below a directory. -/
def Directory.paths : Directory → List (List FileName)
  | .empty => []
  | .entry name (.directory children) rest =>
      [name] :: (children.paths.map (name :: ·) ++ rest.paths)
  | .entry name (.file _) rest => [name] :: rest.paths
  | .entry name (.symlink _) rest => [name] :: rest.paths
  | .entry name .special rest => [name] :: rest.paths
termination_by structural d => d

/-- The paths below a node. -/
def Node.paths : Node → List (List FileName)
  | .directory d => d.paths
  | .file _ | .symlink _ | .special => []

namespace Directory

theorem paths_entry (name : FileName) (node : Node) (rest : Directory) :
    (entry name node rest).paths = [name] :: (node.paths.map (name :: ·) ++ rest.paths) := by
  cases node <;> rfl

theorem length_paths (d : Directory) : d.paths.length = d.entryCount := by
  induction d using treeInduction with
  | empty => rfl
  | file name content rest ih =>
      simp only [paths, entryCount, List.length_cons, ih]
      omega
  | directory name children rest ihChildren ihRest =>
      simp only [paths, entryCount, List.length_cons, List.length_append, List.length_map,
        ihChildren, ihRest]
      omega
  | symlink name resolves rest ih =>
      simp only [paths, entryCount, List.length_cons, ih]
      omega
  | special name rest ih =>
      simp only [paths, entryCount, List.length_cons, ih]
      omega

theorem exists_head_of_mem_paths {d : Directory} {path : List FileName} (h : path ∈ d.paths) :
    ∃ name below, path = name :: below ∧ name ∈ d.names := by
  induction d using entryInduction with
  | empty => simp [paths] at h
  | entry name node rest ih =>
      rw [paths_entry] at h
      rcases List.mem_cons.mp h with rfl | hmem
      · exact ⟨name, [], rfl, List.mem_cons_self⟩
      · rcases List.mem_append.mp hmem with hbelow | hother
        · obtain ⟨below, -, rfl⟩ := List.mem_map.mp hbelow
          exact ⟨name, below, rfl, List.mem_cons_self⟩
        · obtain ⟨other, below, hpath, hname⟩ := ih hother
          exact ⟨other, below, hpath, List.mem_cons_of_mem _ hname⟩

/-- No path comes twice. -/
theorem nodup_paths {d : Directory} (hd : d.Distinct) : d.paths.Nodup := by
  -- the paths of one entry all begin with its name
  have hentry : ∀ {name : FileName} {node : Node} {rest : Directory}, name ∉ rest.names →
      node.paths.Nodup → [] ∉ node.paths → rest.paths.Nodup →
      (entry name node rest).paths.Nodup := by
    intro name node rest hfresh hnode hnil hrest
    have hother : ∀ below, name :: below ∉ rest.paths := by
      intro below hmem
      obtain ⟨other, path, hsame, hname⟩ := exists_head_of_mem_paths hmem
      exact hfresh ((List.cons.inj hsame).1 ▸ hname)
    rw [paths_entry, List.nodup_cons, List.nodup_append]
    refine ⟨?_, ?_, hrest, ?_⟩
    · intro hmem
      rcases List.mem_append.mp hmem with hbelow | hbehind
      · obtain ⟨below, hbelow, hsame⟩ := List.mem_map.mp hbelow
        obtain rfl : below = [] := by simpa using hsame
        exact hnil hbelow
      · exact hother [] hbehind
    · exact hnode.map fun one two hsame => by simpa using hsame
    · rintro one hone two htwo rfl
      obtain ⟨below, -, rfl⟩ := List.mem_map.mp hone
      exact hother below htwo
  have hnil : ∀ children : Directory, [] ∉ children.paths := by
    intro children hmem
    obtain ⟨name, below, hpath, -⟩ := exists_head_of_mem_paths hmem
    contradiction
  induction d using treeInduction with
  | empty => simp [paths]
  | file name content rest ih =>
      obtain ⟨hfresh, -, hrest⟩ := distinct_entry.mp hd
      exact hentry hfresh List.nodup_nil List.not_mem_nil (ih hrest)
  | directory name children rest ihChildren ihRest =>
      obtain ⟨hfresh, hchildren, hrest⟩ := distinct_entry.mp hd
      exact hentry hfresh (ihChildren hchildren) (hnil children) (ihRest hrest)
  | symlink name resolves rest ih =>
      obtain ⟨hfresh, -, hrest⟩ := distinct_entry.mp hd
      exact hentry hfresh List.nodup_nil List.not_mem_nil (ih hrest)
  | special name rest ih =>
      obtain ⟨hfresh, -, hrest⟩ := distinct_entry.mp hd
      exact hentry hfresh List.nodup_nil List.not_mem_nil (ih hrest)

/-- At every path there is an entry. -/
theorem exists_lookup_of_mem_paths {d : Directory} (hd : d.Distinct) {path : List FileName}
    (h : path ∈ d.paths) : ∃ node, d.lookup path = some node := by
  -- one entry, with what is below it and what comes after it
  have hentry : ∀ {name : FileName} {node : Node} {rest : Directory} {path : List FileName},
      name ∉ rest.names →
      (∀ below ∈ node.paths, ∃ found, Node.lookup below node = some found) →
      (path ∈ rest.paths → ∃ found, rest.lookup path = some found) →
      path ∈ (entry name node rest).paths →
      ∃ found, (entry name node rest).lookup path = some found := by
    intro name node rest path hfresh hnode hrest hmem
    rw [paths_entry] at hmem
    rcases List.mem_cons.mp hmem with rfl | hmem
    · exact ⟨node, by rw [lookup_singleton, find?, if_pos rfl]⟩
    rcases List.mem_append.mp hmem with hbelow | hother
    · obtain ⟨below, hchild, rfl⟩ := List.mem_map.mp hbelow
      rw [lookup_cons, find?, if_pos rfl]
      exact hnode below hchild
    · obtain ⟨other, below, rfl, hname⟩ := exists_head_of_mem_paths hother
      have hne : name ≠ other := by
        rintro rfl
        exact hfresh hname
      rw [lookup_cons, find?, if_neg hne]
      exact hrest hother
  induction d using treeInduction generalizing path with
  | empty => simp [paths] at h
  | file name content rest ih =>
      obtain ⟨hfresh, -, hrest⟩ := distinct_entry.mp hd
      exact hentry hfresh (by simp [Node.paths]) (ih hrest) h
  | directory name children rest ihChildren ihRest =>
      obtain ⟨hfresh, hchildren, hrest⟩ := distinct_entry.mp hd
      exact hentry hfresh (fun below hbelow => ihChildren hchildren hbelow) (ihRest hrest) h
  | symlink name resolves rest ih =>
      obtain ⟨hfresh, -, hrest⟩ := distinct_entry.mp hd
      exact hentry hfresh (by simp [Node.paths]) (ih hrest) h
  | special name rest ih =>
      obtain ⟨hfresh, -, hrest⟩ := distinct_entry.mp hd
      exact hentry hfresh (by simp [Node.paths]) (ih hrest) h

/-- A tree whose entries are all at known paths has at most as many entries. -/
theorem entryCount_le {d : Directory} (hd : d.Distinct) {known : List (List FileName)}
    (h : ∀ path node, path ≠ [] → d.lookup path = some node → path ∈ known) :
    d.entryCount ≤ known.length := by
  rw [← length_paths]
  refine ((nodup_paths hd).subperm fun path hpath => ?_).length_le
  obtain ⟨node, hnode⟩ := exists_lookup_of_mem_paths hd hpath
  refine h path node ?_ hnode
  rintro rfl
  obtain ⟨name, below, hsame, -⟩ := exists_head_of_mem_paths hpath
  contradiction

/-- A tree is plain when at every path there is a file or a directory. -/
theorem plain_of_lookup {d : Directory} (hd : d.Distinct)
    (h : ∀ path node, d.lookup path = some node →
      (∃ content, node = .file content) ∨ ∃ sub, node = .directory sub) : d.Plain := by
  have hfirst : ∀ {name : FileName} {node : Node} {rest : Directory},
      (entry name node rest).lookup [name] = some node := by
    intro name node rest
    rw [lookup_singleton, find?, if_pos rfl]
  -- an entry behind the first has another name
  have hbehind : ∀ {name : FileName} {node : Node} {rest : Directory}, name ∉ rest.names →
      (∀ path found, (entry name node rest).lookup path = some found →
        (∃ content, found = .file content) ∨ ∃ sub, found = .directory sub) →
      ∀ path found, rest.lookup path = some found →
        (∃ content, found = .file content) ∨ ∃ sub, found = .directory sub := by
    intro name node rest hfresh hall path found hfound
    cases path with
    | nil =>
        rw [lookup_nil] at hfound
        exact Or.inr ⟨rest, (Option.some.inj hfound).symm⟩
    | cons other below =>
        rw [lookup_cons] at hfound
        obtain ⟨child, hchild, -⟩ := Option.bind_eq_some_iff.mp hfound
        have hne : name ≠ other := by
          rintro rfl
          exact hfresh (mem_names_of_find? hchild)
        apply hall (other :: below) found
        rw [lookup_cons, find?, if_neg hne]
        exact hfound
  induction d using treeInduction with
  | empty => trivial
  | file name content rest ih =>
      obtain ⟨hfresh, -, hrest⟩ := distinct_entry.mp hd
      exact ih hrest (hbehind hfresh h)
  | directory name children rest ihChildren ihRest =>
      obtain ⟨hfresh, hchildren, hrest⟩ := distinct_entry.mp hd
      refine ⟨ihChildren hchildren fun path found hfound => ?_, ihRest hrest (hbehind hfresh h)⟩
      apply h (name :: path) found
      rw [lookup_cons, find?, if_pos rfl]
      exact hfound
  | symlink name resolves rest ih =>
      rcases h [name] _ hfirst with ⟨content, hcontent⟩ | ⟨sub, hsub⟩
      · contradiction
      · contradiction
  | special name rest ih =>
      rcases h [name] _ hfirst with ⟨content, hcontent⟩ | ⟨sub, hsub⟩
      · contradiction
      · contradiction

end Directory

/-! ## Operations that go through -/

namespace Directory

variable {root : Directory} {name : FileName}

/-- Below a node with an entry there is a directory. -/
theorem exists_directory_of_lookup {ancestor rest : List FileName} {node : Node}
    (h : root.lookup (ancestor ++ name :: rest) = some node) :
    ∃ d, root.lookup ancestor = some (.directory d) := by
  rw [lookup_append] at h
  obtain ⟨found, hfound, hbelow⟩ := Option.bind_eq_some_iff.mp h
  cases found with
  | directory d => exact ⟨d, hfound⟩
  | file content => contradiction
  | symlink resolves => contradiction
  | special => contradiction

end Directory

namespace FileTree

variable {tree : FileTree} {parent : List FileName} {name : FileName} {d : Directory}

theorem exists_directory_of_lookup {ancestor rest : List FileName} {node : Node}
    (h : tree.lookup (ancestor ++ name :: rest) = some node) :
    ∃ d, tree.lookup ancestor = some (.directory d) :=
  Directory.exists_directory_of_lookup h

/-- A directory is made where there is nothing. -/
theorem exists_createDirectory (hparent : tree.lookup parent = some (.directory d))
    (h : tree.lookup (parent ++ [name]) = none) :
    ∃ tree', (FileOperation.createDirectory (parent ++ [name])).apply tree = .ok tree' := by
  obtain ⟨root, hroot⟩ := Directory.exists_atEntry hparent
    (show Change.createDirectory (tree.lookup (parent ++ [name])) = .ok _ by rw [h]; rfl)
  have hrun : (FileOperation.createDirectory (parent ++ [name])).run tree.root = .ok root := hroot
  obtain ⟨tree', happly, -⟩ := FileOperation.apply_of_run hrun
  exact ⟨tree', happly⟩

/-- A directory is there, or made, where there is nothing else. -/
theorem exists_ensureDirectory (hparent : tree.lookup parent = some (.directory d))
    (h : tree.lookup (parent ++ [name]) = none ∨
      ∃ sub, tree.lookup (parent ++ [name]) = some (.directory sub)) :
    ∃ tree', (FileOperation.ensureDirectory (parent ++ [name])).apply tree = .ok tree' := by
  obtain ⟨new, hnew⟩ : ∃ new,
      Change.ensureDirectory (tree.lookup (parent ++ [name])) = .ok new := by
    rcases h with hnone | ⟨sub, hsub⟩
    · exact ⟨_, by rw [hnone]; rfl⟩
    · exact ⟨_, by rw [hsub]; rfl⟩
  obtain ⟨root, hroot⟩ := Directory.exists_atEntry hparent hnew
  have hrun : (FileOperation.ensureDirectory (parent ++ [name])).run tree.root = .ok root := hroot
  obtain ⟨tree', happly, -⟩ := FileOperation.apply_of_run hrun
  exact ⟨tree', happly⟩

/-- Behind making sure that a directory exists it does. -/
theorem lookup_ensureDirectory_self {path : List FileName} {tree' : FileTree}
    (h : (FileOperation.ensureDirectory path).apply tree = .ok tree') :
    ∃ d, tree'.lookup path = some (.directory d) := by
  have hself := Directory.lookup_atEntry_self (FileOperation.run_of_apply h)
  change Change.ensureDirectory (tree.lookup path) = .ok (tree'.lookup path) at hself
  unfold Change.ensureDirectory at hself
  split at hself
  · exact ⟨.empty, (Except.ok.inj hself).symm⟩
  · rename_i d _
    exact ⟨d, (Except.ok.inj hself).symm⟩
  · contradiction

/-- A file is made, or emptied, where there is nothing else. -/
theorem exists_createFile (hparent : tree.lookup parent = some (.directory d))
    (h : tree.lookup (parent ++ [name]) = none ∨
      ∃ content, tree.lookup (parent ++ [name]) = some (.file content)) :
    ∃ tree', (FileOperation.createFile (parent ++ [name])).apply tree = .ok tree' := by
  obtain ⟨new, hnew⟩ : ∃ new, Change.createFile (tree.lookup (parent ++ [name])) = .ok new := by
    rcases h with hnone | ⟨content, hcontent⟩
    · exact ⟨_, by rw [hnone]; rfl⟩
    · exact ⟨_, by rw [hcontent]; rfl⟩
  obtain ⟨root, hroot⟩ := Directory.exists_atEntry hparent hnew
  have hrun : (FileOperation.createFile (parent ++ [name])).run tree.root = .ok root := hroot
  obtain ⟨tree', happly, -⟩ := FileOperation.apply_of_run hrun
  exact ⟨tree', happly⟩

/-- Bytes are added to a file that is there. -/
theorem exists_append {path : List FileName} {content bytes : Bytes} (hpath : path ≠ [])
    (h : tree.lookup path = some (.file content)) :
    ∃ tree', (FileOperation.append path bytes).apply tree = .ok tree' := by
  obtain ⟨parent, name, rfl⟩ : ∃ parent name, path = parent ++ [name] :=
    ⟨path.dropLast, path.getLast hpath, (List.dropLast_append_getLast hpath).symm⟩
  obtain ⟨d, hparent⟩ := exists_directory_of_lookup h
  obtain ⟨root, hroot⟩ := Directory.exists_atEntry hparent
    (show Change.append bytes (tree.lookup (parent ++ [name])) = .ok _ by rw [h]; rfl)
  have hrun : (FileOperation.append (parent ++ [name]) bytes).run tree.root = .ok root := hroot
  obtain ⟨tree', happly, -⟩ := FileOperation.apply_of_run hrun
  exact ⟨tree', happly⟩

/-- A node is renamed to where its replacement is allowed, away from itself. -/
theorem exists_rename {source : List FileName} {node : Node} {new : Option Node}
    (hsource : tree.lookup source = some node)
    (hleft : ¬ source <+: parent ++ [name]) (hright : ¬ parent ++ [name] <+: source)
    (hparent : tree.lookup parent = some (.directory d))
    (h : Change.replaceBy node (tree.lookup (parent ++ [name])) = .ok new) :
    ∃ tree', (FileOperation.rename source (parent ++ [name])).apply tree = .ok tree' := by
  have hne : source ≠ parent ++ [name] := by
    rintro rfl
    exact hleft List.prefix_rfl
  have hnil : source ≠ [] := by
    rintro rfl
    exact hleft List.nil_prefix
  obtain ⟨mid, hmid⟩ := Directory.exists_atEntry hparent h
  -- the source has kept its place
  have hkept : mid.lookup source = some node :=
    (Directory.lookup_atEntry_frame hmid hright hleft).trans hsource
  obtain ⟨above, last, rfl⟩ : ∃ above last, source = above ++ [last] :=
    ⟨source.dropLast, source.getLast hnil, (List.dropLast_append_getLast hnil).symm⟩
  obtain ⟨sub, habove⟩ := Directory.exists_directory_of_lookup hkept
  obtain ⟨root, hroot⟩ := Directory.exists_atEntry habove
    (show Change.remove (mid.lookup (above ++ [last])) = .ok none from rfl)
  have hrun : (FileOperation.rename (above ++ [last]) (parent ++ [name])).run tree.root =
      .ok root := by
    simp only [FileOperation.run]
    rw [show tree.root.lookup (above ++ [last]) = some node from hsource]
    simp only [if_neg hne, if_neg hleft, hmid, hroot]
  obtain ⟨tree', happly, -⟩ := FileOperation.apply_of_run hrun
  exact ⟨tree', happly⟩

end FileTree

end Library
end Benchplane
