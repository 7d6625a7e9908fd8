import Benchplane.Library.FileTree

/-!
# File operations

A `FileTree` carries the proof that names are distinct in every directory, and
each operation returns another such tree or an error.  The frame theorem bounds
what an operation can touch by the paths it names.
-/

namespace Benchplane
namespace Library

/-- A tree whose directories have distinct entry names. -/
structure FileTree where
  root : Directory
  distinct : root.Distinct

namespace Change

/-- `mkdir`: there must be no entry yet. -/
def createDirectory : Option Node → Except IoError (Option Node)
  | none => .ok (some (.directory .empty))
  | some _ => .error .alreadyExists

/-- `mkdir` where an existing directory is as good as a new one. -/
def ensureDirectory : Option Node → Except IoError (Option Node)
  | none => .ok (some (.directory .empty))
  | some (.directory d) => .ok (some (.directory d))
  | some _ => .error .alreadyExists

/-- Open for writing: a missing file is created and an existing one truncated. -/
def createFile : Option Node → Except IoError (Option Node)
  | none => .ok (some (.file []))
  | some (.file _) => .ok (some (.file []))
  | some (.directory _) => .error .isADirectory
  | some (.symlink _) => .error (.other "symbolic link")
  | some .special => .error (.other "special file")

/-- Add bytes at the end of an existing file. -/
def append (bytes : Bytes) : Option Node → Except IoError (Option Node)
  | none => .error .notFound
  | some (.file content) => .ok (some (.file (content ++ bytes)))
  | some (.directory _) => .error .isADirectory
  | some (.symlink _) => .error (.other "symbolic link")
  | some .special => .error (.other "special file")

/-- The target side of `rename`: a directory replaces nothing or an empty
directory, anything else replaces nothing or a non-directory. -/
def replaceBy (node : Node) : Option Node → Except IoError (Option Node)
  | none => .ok (some node)
  | some old =>
      match node, old with
      | .directory _, .directory .empty => .ok (some node)
      | .directory _, .directory (.entry ..) => .error .directoryNotEmpty
      | .directory _, _ => .error .notADirectory
      | _, .directory _ => .error .isADirectory
      | _, _ => .ok (some node)

/-- The source side of `rename`. -/
def remove : Option Node → Except IoError (Option Node)
  | _ => .ok none

theorem replaceBy_eq_ok {node new : Node} {old : Option Node}
    (h : replaceBy node old = .ok (some new)) : new = node := by
  unfold replaceBy at h
  grind

/-- A change of an entry that leaves what is below it. -/
def KeepsBelow (change : Option Node → Except IoError (Option Node)) : Prop :=
  ∀ old new, change old = .ok new → ∀ name path,
    new.bind (Node.lookup (name :: path)) = old.bind (Node.lookup (name :: path))

theorem keepsBelow_createDirectory : KeepsBelow createDirectory := by
  intro old new h name path
  unfold createDirectory at h
  split at h
  · rw [← Except.ok.inj h]
    rfl
  · contradiction

theorem keepsBelow_ensureDirectory : KeepsBelow ensureDirectory := by
  intro old new h name path
  unfold ensureDirectory at h
  split at h
  · rw [← Except.ok.inj h]
    rfl
  · rw [← Except.ok.inj h]
  · contradiction

theorem keepsBelow_createFile : KeepsBelow createFile := by
  intro old new h name path
  unfold createFile at h
  split at h
  · rw [← Except.ok.inj h]
    rfl
  · rw [← Except.ok.inj h]
    rfl
  · contradiction
  · contradiction
  · contradiction

theorem keepsBelow_append (bytes : Bytes) : KeepsBelow (append bytes) := by
  intro old new h name path
  unfold append at h
  split at h
  · contradiction
  · rw [← Except.ok.inj h]
    rfl
  · contradiction
  · contradiction
  · contradiction

/-- A directory with an entry is never replaced. -/
theorem replaceBy_directory_ne_ok {node : Node} {d : Directory} {name : FileName} {child : Node}
    (hchild : d.find? name = some child) (new : Option Node) :
    replaceBy node (some (.directory d)) ≠ .ok new := by
  cases d with
  | empty => contradiction
  | entry first other rest => cases node <;> simp [replaceBy]

end Change

/-- The operations that change a tree. -/
inductive FileOperation where
  | createDirectory (path : List FileName)
  | ensureDirectory (path : List FileName)
  | createFile (path : List FileName)
  | append (path : List FileName) (bytes : Bytes)
  | rename (source target : List FileName)

namespace FileOperation

/-- The effect of an operation on a directory tree. -/
def run : FileOperation → Directory → Except IoError Directory
  | .createDirectory path, d => d.atEntry Change.createDirectory path
  | .ensureDirectory path, d => d.atEntry Change.ensureDirectory path
  | .createFile path, d => d.atEntry Change.createFile path
  | .append path bytes, d => d.atEntry (Change.append bytes) path
  | .rename source target, d =>
      match d.lookup source with
      | none => .error .notFound
      | some node =>
          if source = target then .ok d
          else if source <+: target then .error .invalidInput
          else
            match d.atEntry (Change.replaceBy node) target with
            | .error e => .error e
            | .ok d' => d'.atEntry Change.remove source

/-- The paths an operation names. -/
def scope : FileOperation → List (List FileName)
  | .createDirectory path | .ensureDirectory path | .createFile path | .append path _ => [path]
  | .rename source target => [source, target]

end FileOperation

/-- A rename that goes through is two changes: the node is put in its place, then taken out of
the old one.  To its own place a node is not moved. -/
theorem FileOperation.rename_eq_ok {source target : List FileName} {d d' : Directory}
    (h : (FileOperation.rename source target).run d = .ok d') :
    ∃ node, d.lookup source = some node ∧
      (source = target ∧ d' = d ∨
        source ≠ target ∧ ¬ source <+: target ∧
          ∃ mid, d.atEntry (Change.replaceBy node) target = .ok mid ∧
            mid.atEntry Change.remove source = .ok d') := by
  simp only [FileOperation.run] at h
  split at h
  · contradiction
  · rename_i node hnode
    refine ⟨node, hnode, ?_⟩
    split at h
    · rename_i hsame
      exact Or.inl ⟨hsame, (Except.ok.inj h).symm⟩
    · rename_i hne
      split at h
      · contradiction
      · rename_i hinside
        split at h
        · contradiction
        · rename_i mid hmid
          exact Or.inr ⟨hne, hinside, mid, hmid, h⟩

theorem Directory.Distinct.lookup {d : Directory} (h : d.Distinct) {path : List FileName}
    {node : Node} (hlookup : d.lookup path = some node) : node.Distinct := by
  induction path generalizing d with
  | nil =>
      obtain rfl : Node.directory d = node := by simpa using hlookup
      exact h
  | cons name path ih =>
      rw [Directory.lookup_cons] at hlookup
      obtain ⟨child, hchild, hrest⟩ := Option.bind_eq_some_iff.mp hlookup
      have hdistinct : child.Distinct := h.find? hchild
      cases path with
      | nil => exact (Option.some.inj hrest) ▸ hdistinct
      | cons next path =>
          cases child with
          | directory sub => exact ih (d := sub) hdistinct hrest
          | file content => simp [Node.lookup] at hrest
          | symlink resolves => simp [Node.lookup] at hrest
          | special => simp [Node.lookup] at hrest

theorem FileOperation.distinct_run {op : FileOperation} {d d' : Directory} (h : d.Distinct)
    (hrun : op.run d = .ok d') : d'.Distinct := by
  cases op with
  | createDirectory path =>
      refine h.atEntry (fun old new _ hnew => ?_) hrun
      cases old <;> simp [Change.createDirectory] at hnew
      exact hnew ▸ trivial
  | ensureDirectory path =>
      refine h.atEntry (fun old new hold hnew => ?_) hrun
      unfold Change.ensureDirectory at hnew
      split at hnew
      · exact (Option.some.inj (Except.ok.inj hnew)) ▸ trivial
      · exact (Option.some.inj (Except.ok.inj hnew)) ▸ hold _ rfl
      · contradiction
  | createFile path =>
      refine h.atEntry (fun old new _ hnew => ?_) hrun
      unfold Change.createFile at hnew
      split at hnew <;> first | contradiction | exact (Option.some.inj (Except.ok.inj hnew)) ▸ trivial
  | append path bytes =>
      refine h.atEntry (fun old new _ hnew => ?_) hrun
      unfold Change.append at hnew
      split at hnew <;> first | contradiction | exact (Option.some.inj (Except.ok.inj hnew)) ▸ trivial
  | rename source target =>
      obtain ⟨node, hnode, ⟨-, rfl⟩ | ⟨-, -, mid, hmid, hremove⟩⟩ := rename_eq_ok hrun
      · exact h
      · have hmidDistinct : mid.Distinct := h.atEntry
          (fun old new _ hnew => Change.replaceBy_eq_ok hnew ▸ h.lookup hnode) hmid
        exact hmidDistinct.atEntry (fun old new _ hnew => by simp [Change.remove] at hnew) hremove

/-- The effect of an operation on a tree. -/
def FileOperation.apply (op : FileOperation) (tree : FileTree) : Except IoError FileTree :=
  match h : op.run tree.root with
  | .error e => .error e
  | .ok root => .ok ⟨root, op.distinct_run tree.distinct h⟩

theorem FileOperation.run_of_apply {op : FileOperation} {tree tree' : FileTree}
    (h : op.apply tree = .ok tree') : op.run tree.root = .ok tree'.root := by
  unfold FileOperation.apply at h
  split at h
  · contradiction
  · rename_i root hroot
    obtain rfl := Except.ok.inj h
    exact hroot

theorem FileOperation.apply_of_run {op : FileOperation} {tree : FileTree} {root : Directory}
    (h : op.run tree.root = .ok root) :
    ∃ tree', op.apply tree = .ok tree' ∧ tree'.root = root := by
  unfold FileOperation.apply
  split
  · rename_i hroot
    rw [h] at hroot
    contradiction
  · rename_i root' hroot
    rw [h] at hroot
    exact ⟨_, rfl, (Except.ok.inj hroot).symm⟩

namespace FileTree

/-- The tree with nothing in it. -/
def empty : FileTree := ⟨.empty, trivial⟩

/-- The node at a path. -/
def lookup (path : List FileName) (tree : FileTree) : Option Node :=
  tree.root.lookup path

/-- Whether a path resolves: a symbolic link counts for what it points to. -/
def «exists» (path : List FileName) (tree : FileTree) : Bool :=
  match tree.lookup path with
  | none => false
  | some (.symlink resolves) => resolves
  | some _ => true

theorem lookup_append (p q : List FileName) (tree : FileTree) :
    tree.lookup (p ++ q) = (tree.lookup p).bind (Node.lookup q) :=
  Directory.lookup_append p q tree.root

/-- Nothing outside the paths an operation names changes. -/
theorem lookup_apply_frame {op : FileOperation} {tree tree' : FileTree}
    (h : op.apply tree = .ok tree') {other : List FileName}
    (hscope : ∀ path ∈ op.scope, ¬ path <+: other ∧ ¬ other <+: path) :
    tree'.lookup other = tree.lookup other := by
  have hrun := FileOperation.run_of_apply h
  cases op with
  | createDirectory path | ensureDirectory path | createFile path | append path bytes =>
      obtain ⟨hleft, hright⟩ := hscope path (by simp [FileOperation.scope])
      exact Directory.lookup_atEntry_frame hrun hleft hright
  | rename source target =>
      obtain ⟨hsl, hsr⟩ := hscope source (by simp [FileOperation.scope])
      obtain ⟨htl, htr⟩ := hscope target (by simp [FileOperation.scope])
      obtain ⟨node, -, ⟨-, hsame⟩ | ⟨-, -, mid, hmid, hremove⟩⟩ := FileOperation.rename_eq_ok hrun
      · rw [lookup, hsame, lookup]
      · -- neither change of the rename touches the other path
        calc tree'.root.lookup other
            = mid.lookup other := Directory.lookup_atEntry_frame hremove hsl hsr
          _ = tree.root.lookup other := Directory.lookup_atEntry_frame hmid htl htr

/-- Making sure that a directory exists changes no path but its ancestors' and
its own. -/
theorem lookup_ensureDirectory {path other : List FileName} {tree tree' : FileTree}
    (h : (FileOperation.ensureDirectory path).apply tree = .ok tree')
    (hother : ¬ other <+: path) : tree'.lookup other = tree.lookup other := by
  have hrun := FileOperation.run_of_apply h
  by_cases hprefix : path <+: other
  · obtain ⟨rest, rfl⟩ := hprefix
    have hrest : rest ≠ [] := by
      rintro rfl
      exact hother (by simp)
    have hself := Directory.lookup_atEntry_self hrun
    rw [lookup_append, lookup_append]
    change Change.ensureDirectory (tree.lookup path) = .ok (tree'.lookup path) at hself
    unfold Change.ensureDirectory at hself
    obtain ⟨name, rest, rfl⟩ := List.exists_cons_of_ne_nil hrest
    split at hself
    · rename_i hnone
      rw [← Except.ok.inj hself, hnone]
      rfl
    · rename_i hsome
      rw [← Except.ok.inj hself, hsome]
    · contradiction
  · exact Directory.lookup_atEntry_frame hrun hprefix hother

/-- A change at an ancestor of a path that keeps what is below, or away from the path. -/
theorem lookup_atEntry_within {change : Option Node → Except IoError (Option Node)}
    (hchange : Change.KeepsBelow change) {ancestor path rest : List FileName} {name : FileName}
    {d d' : Directory} (h : d.atEntry change path = .ok d')
    (hpath : path = ancestor ∨
      (¬ path <+: ancestor ++ name :: rest ∧ ¬ ancestor ++ name :: rest <+: path)) :
    d'.lookup (ancestor ++ name :: rest) = d.lookup (ancestor ++ name :: rest) := by
  rcases hpath with rfl | ⟨hleft, hright⟩
  · rw [Directory.lookup_append, Directory.lookup_append]
    exact hchange _ _ (Directory.lookup_atEntry_self h) name rest
  · exact Directory.lookup_atEntry_frame h hleft hright

/-- Operations on an ancestor of a path, or below it away from the path, leave the path. -/
theorem lookup_apply_within {op : FileOperation} {tree tree' : FileTree}
    (h : op.apply tree = .ok tree') {ancestor rest : List FileName} {name : FileName}
    (hscope : ∀ path ∈ op.scope, path = ancestor ∨ (ancestor <+: path ∧
      ¬ path <+: ancestor ++ name :: rest ∧ ¬ ancestor ++ name :: rest <+: path)) :
    tree'.lookup (ancestor ++ name :: rest) = tree.lookup (ancestor ++ name :: rest) := by
  have hrun := FileOperation.run_of_apply h
  have hsingle : ∀ path ∈ op.scope, path = ancestor ∨
      (¬ path <+: ancestor ++ name :: rest ∧ ¬ ancestor ++ name :: rest <+: path) := by
    intro path hpath
    exact (hscope path hpath).imp_right And.right
  cases op with
  | createDirectory path =>
      exact lookup_atEntry_within Change.keepsBelow_createDirectory hrun
        (hsingle path (by simp [FileOperation.scope]))
  | ensureDirectory path =>
      exact lookup_atEntry_within Change.keepsBelow_ensureDirectory hrun
        (hsingle path (by simp [FileOperation.scope]))
  | createFile path =>
      exact lookup_atEntry_within Change.keepsBelow_createFile hrun
        (hsingle path (by simp [FileOperation.scope]))
  | append path bytes =>
      exact lookup_atEntry_within (Change.keepsBelow_append bytes) hrun
        (hsingle path (by simp [FileOperation.scope]))
  | rename source target =>
      have hsource := hscope source (by simp [FileOperation.scope])
      have htarget := hscope target (by simp [FileOperation.scope])
      obtain ⟨node, hnode, ⟨-, hsame⟩ | ⟨hne, hinside, mid, hmid, hremove⟩⟩ :=
        FileOperation.rename_eq_ok hrun
      · rw [lookup, hsame, lookup]
      · rcases hsource with rfl | ⟨hbelow, hsourceLeft, hsourceRight⟩
        · -- nothing is moved below itself
          rcases htarget with rfl | ⟨hbelow, -, -⟩
          · exact absurd rfl hne
          · exact absurd hbelow hinside
        · rcases htarget with rfl | ⟨-, htargetLeft, htargetRight⟩
          · -- the ancestor is not empty: what is moved is below it
            exfalso
            obtain ⟨below, rfl⟩ := hbelow
            have hbelow : below ≠ [] := by
              rintro rfl
              exact hne (by simp)
            obtain ⟨first, more, rfl⟩ := List.exists_cons_of_ne_nil hbelow
            have hput := Directory.lookup_atEntry_self hmid
            rw [Directory.lookup_append] at hnode
            obtain ⟨parent, hparent, hchild⟩ := Option.bind_eq_some_iff.mp hnode
            cases parent with
            | directory d =>
                obtain ⟨child, hfirst, -⟩ := Option.bind_eq_some_iff.mp hchild
                rw [hparent] at hput
                exact Change.replaceBy_directory_ne_ok hfirst _ hput
            | file content => contradiction
            | symlink resolves => contradiction
            | special => contradiction
          · calc tree'.root.lookup (ancestor ++ name :: rest)
                = mid.lookup (ancestor ++ name :: rest) :=
                  Directory.lookup_atEntry_frame hremove hsourceLeft hsourceRight
              _ = tree.root.lookup (ancestor ++ name :: rest) :=
                  Directory.lookup_atEntry_frame hmid htargetLeft htargetRight

/-- Making sure that a directory exists neither makes nor changes a file. -/
theorem lookup_file_ensureDirectory {path other : List FileName} {tree tree' : FileTree}
    (h : (FileOperation.ensureDirectory path).apply tree = .ok tree') {content : Bytes} :
    tree'.lookup other = some (.file content) ↔ tree.lookup other = some (.file content) := by
  have hrun := FileOperation.run_of_apply h
  by_cases hother : other <+: path
  · obtain ⟨below, rfl⟩ := hother
    cases below with
    | nil =>
        have hself := Directory.lookup_atEntry_self hrun
        rw [List.append_nil] at hself
        change Change.ensureDirectory (tree.lookup other) = .ok (tree'.lookup other) at hself
        unfold Change.ensureDirectory at hself
        split at hself
        · rename_i hnone
          rw [← Except.ok.inj hself, hnone]
          simp
        · rename_i hsome
          rw [← Except.ok.inj hself, hsome]
        · contradiction
    | cons first more =>
        obtain ⟨⟨sub, hbefore⟩, sub', hbehind⟩ := Directory.exists_directory_of_atEntry hrun
        rw [lookup, hbehind, lookup, hbefore]
        simp
  · rw [lookup_ensureDirectory h hother]

theorem lookup_createFile_self {path : List FileName} {tree tree' : FileTree}
    (h : (FileOperation.createFile path).apply tree = .ok tree') :
    tree'.lookup path = some (.file []) := by
  have hself := Directory.lookup_atEntry_self (FileOperation.run_of_apply h)
  change Change.createFile (tree.lookup path) = .ok (tree'.lookup path) at hself
  unfold Change.createFile at hself
  split at hself <;> first | contradiction | exact (Except.ok.inj hself).symm

/-- An append that goes through extended an existing file. -/
theorem lookup_append_self {path : List FileName} {bytes : Bytes} {tree tree' : FileTree}
    (h : (FileOperation.append path bytes).apply tree = .ok tree') :
    ∃ content, tree.lookup path = some (.file content) ∧
      tree'.lookup path = some (.file (content ++ bytes)) := by
  have hself := Directory.lookup_atEntry_self (FileOperation.run_of_apply h)
  change Change.append bytes (tree.lookup path) = .ok (tree'.lookup path) at hself
  unfold Change.append at hself
  split at hself
  · contradiction
  · rename_i content hcontent
    exact ⟨content, hcontent, (Except.ok.inj hself).symm⟩
  · contradiction
  · contradiction
  · contradiction

theorem lookup_createDirectory_self {path : List FileName} {tree tree' : FileTree}
    (h : (FileOperation.createDirectory path).apply tree = .ok tree') :
    tree.lookup path = none ∧ tree'.lookup path = some (.directory .empty) := by
  have hself := Directory.lookup_atEntry_self (FileOperation.run_of_apply h)
  change Change.createDirectory (tree.lookup path) = .ok (tree'.lookup path) at hself
  unfold Change.createDirectory at hself
  split at hself
  · rename_i hnone
    exact ⟨hnone, (Except.ok.inj hself).symm⟩
  · contradiction

/-- After a rename the target holds what the source held, and the source is gone. -/
theorem lookup_rename {source target : List FileName} {tree tree' : FileTree}
    (h : (FileOperation.rename source target).apply tree = .ok tree')
    (hne : source ≠ target) (htarget : ¬ target <+: source) :
    tree'.lookup target = tree.lookup source ∧ tree'.lookup source = none := by
  obtain ⟨node, hnode, ⟨hsame, -⟩ | ⟨-, hsource, mid, hmid, hremove⟩⟩ :=
    FileOperation.rename_eq_ok (FileOperation.run_of_apply h)
  · exact absurd hsame hne
  · have hput := Directory.lookup_atEntry_self hmid
    have herase := Directory.lookup_atEntry_self hremove
    -- the node is at both paths between the two changes
    have hmidTarget : mid.lookup target = some node := by
      cases hcase : mid.lookup target with
      | none =>
          rw [hcase] at hput
          unfold Change.replaceBy at hput
          grind
      | some new =>
          rw [hcase] at hput
          rw [Change.replaceBy_eq_ok hput]
    constructor
    · calc tree'.root.lookup target
          = mid.lookup target := Directory.lookup_atEntry_frame hremove hsource htarget
        _ = tree.lookup source := hmidTarget.trans hnode.symm
    · exact (Except.ok.inj herase).symm

/-! ## Operations on the entries of one directory -/

variable {parent : List FileName} {name other : FileName} {tree tree' : FileTree} {d : Directory}

theorem createFile_entry (hparent : tree.lookup parent = some (.directory d))
    (h : (FileOperation.createFile (parent ++ [name])).apply tree = .ok tree') :
    tree'.lookup parent = some (.directory (d.put name (.file []))) ∧
      ∀ sub, d.find? name ≠ some (.directory sub) := by
  obtain ⟨d', hd', hlookup⟩ :=
    Directory.lookup_parent_atEntry hparent (FileOperation.run_of_apply h)
  simp only [Directory.atEntry] at hd'
  cases hfind : Change.createFile (d.find? name) with
  | error e => simp [hfind] at hd'
  | ok new =>
      have hnew : new = some (.file []) := by
        unfold Change.createFile at hfind
        split at hfind <;> first | contradiction | exact (Except.ok.inj hfind).symm
      simp only [hfind, hnew] at hd'
      obtain rfl := Except.ok.inj hd'
      refine ⟨hlookup, fun sub hsub => ?_⟩
      rw [hsub] at hfind
      simp [Change.createFile] at hfind

theorem append_entry {bytes : Bytes} (hparent : tree.lookup parent = some (.directory d))
    (h : (FileOperation.append (parent ++ [name]) bytes).apply tree = .ok tree') :
    ∃ content, d.find? name = some (.file content) ∧
      tree'.lookup parent = some (.directory (d.put name (.file (content ++ bytes)))) := by
  obtain ⟨d', hd', hlookup⟩ :=
    Directory.lookup_parent_atEntry hparent (FileOperation.run_of_apply h)
  simp only [Directory.atEntry] at hd'
  cases hold : d.find? name with
  | none => simp [hold, Change.append] at hd'
  | some node =>
      cases node with
      | file content =>
          simp only [hold, Change.append] at hd'
          obtain rfl := Except.ok.inj hd'
          exact ⟨content, rfl, hlookup⟩
      | directory sub => simp [hold, Change.append] at hd'
      | symlink resolves => simp [hold, Change.append] at hd'
      | special => simp [hold, Change.append] at hd'

theorem rename_entry (hne : other ≠ name) (hparent : tree.lookup parent = some (.directory d))
    (h : (FileOperation.rename (parent ++ [name]) (parent ++ [other])).apply tree = .ok tree') :
    ∃ node, d.find? name = some node ∧ Change.replaceBy node (d.find? other) = .ok (some node) ∧
      tree'.lookup parent = some (.directory ((d.put other node).erase name)) := by
  have hpath : parent ++ [name] ≠ parent ++ [other] := by simp [Ne.symm hne]
  have hsource : tree.root.lookup (parent ++ [name]) = d.find? name := by
    rw [Directory.lookup_append, show tree.root.lookup parent = _ from hparent]
    exact Directory.lookup_singleton name d
  obtain ⟨node, hnode, ⟨hsame, -⟩ | ⟨-, -, mid, hmid, hremove⟩⟩ :=
    FileOperation.rename_eq_ok (FileOperation.run_of_apply h)
  · exact absurd hsame hpath
  · -- both changes are in the same directory
    obtain ⟨dmid, hdmid, hmidLookup⟩ := Directory.lookup_parent_atEntry hparent hmid
    obtain ⟨d', hd', hlookup⟩ := Directory.lookup_parent_atEntry hmidLookup hremove
    simp only [Directory.atEntry] at hdmid
    cases hreplace : Change.replaceBy node (d.find? other) with
    | error e => simp [hreplace] at hdmid
    | ok new =>
        cases new with
        | none =>
            unfold Change.replaceBy at hreplace
            grind
        | some replaced =>
            obtain rfl := Change.replaceBy_eq_ok hreplace
            simp only [hreplace] at hdmid
            obtain rfl := Except.ok.inj hdmid
            simp only [Directory.atEntry, Change.remove] at hd'
            obtain rfl := Except.ok.inj hd'
            exact ⟨replaced, hsource ▸ hnode, hreplace, hlookup⟩

end FileTree

end Library
end Benchplane
