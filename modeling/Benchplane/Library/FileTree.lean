import Benchplane.Library.UnixPath
import Mathlib.Data.List.Nodup

/-!
# File trees

A directory is the list of its entries in the order the kernel returns them.
`lookup` follows a path of entry names without following symbolic links, and
every change goes through `atEntry`, which rewrites one entry below an existing
directory.  Its frame lemmas say that nothing off the path changes.
-/

namespace Benchplane
namespace Library

/-- The failures of a file operation that its caller can observe. -/
inductive IoError where
  | notFound
  | alreadyExists
  | notADirectory
  | isADirectory
  | directoryNotEmpty
  | invalidInput
  | other (description : String)
  deriving DecidableEq

mutual

/-- What a directory entry can be.  A symbolic link records only whether it
resolves: no operation here follows one. -/
inductive Node where
  | file (content : Bytes)
  | directory (entries : Directory)
  | symlink (resolves : Bool)
  | special

/-- The entries of a directory, in the order of the kernel's listing. -/
inductive Directory where
  | empty
  | entry (name : FileName) (node : Node) (rest : Directory)

end

namespace Directory

/-- Induction along the entries of one directory. -/
@[elab_as_elim]
theorem entryInduction {P : Directory → Prop} (empty : P .empty)
    (entry : ∀ name node rest, P rest → P (.entry name node rest)) :
    ∀ directory, P directory
  | .empty => empty
  | .entry name node rest => entry name node rest (entryInduction empty entry rest)
termination_by structural directory => directory

/-- Induction over a whole tree, by the kind of each entry. -/
@[elab_as_elim]
theorem treeInduction {P : Directory → Prop} (empty : P .empty)
    (file : ∀ name content rest, P rest → P (.entry name (.file content) rest))
    (directory : ∀ name children rest, P children → P rest →
      P (.entry name (.directory children) rest))
    (symlink : ∀ name resolves rest, P rest → P (.entry name (.symlink resolves) rest))
    (special : ∀ name rest, P rest → P (.entry name .special rest)) :
    ∀ d, P d
  | .empty => empty
  | .entry name (.file content) rest =>
      file name content rest (treeInduction empty file directory symlink special rest)
  | .entry name (.directory children) rest =>
      directory name children rest
        (treeInduction empty file directory symlink special children)
        (treeInduction empty file directory symlink special rest)
  | .entry name (.symlink resolves) rest =>
      symlink name resolves rest (treeInduction empty file directory symlink special rest)
  | .entry name .special rest =>
      special name rest (treeInduction empty file directory symlink special rest)
termination_by structural d => d

/-- The entry with a given name. -/
def find? (name : FileName) : Directory → Option Node
  | .empty => none
  | .entry other node rest => if other = name then some node else rest.find? name

/-- The names of the entries. -/
def names : Directory → List FileName
  | .empty => []
  | .entry name _ rest => name :: rest.names

/-- Replace the entry with a given name, or add it behind the others. -/
def put (name : FileName) (node : Node) : Directory → Directory
  | .empty => .entry name node .empty
  | .entry other old rest =>
      if other = name then .entry name node rest else .entry other old (rest.put name node)

/-- Remove the entry with a given name. -/
def erase (name : FileName) : Directory → Directory
  | .empty => .empty
  | .entry other node rest =>
      if other = name then rest.erase name else .entry other node (rest.erase name)

@[simp] theorem find?_put_self (name : FileName) (node : Node) (d : Directory) :
    (d.put name node).find? name = some node := by
  induction d using entryInduction with
  | empty => simp [put, find?]
  | entry other old rest ih =>
      by_cases h : other = name
      · simp [put, find?, h]
      · simp [put, find?, h, ih]

theorem find?_put_ne {name other : FileName} (h : other ≠ name) (node : Node)
    (d : Directory) : (d.put name node).find? other = d.find? other := by
  induction d using entryInduction with
  | empty => simp [put, find?, Ne.symm h]
  | entry entryName old rest ih =>
      by_cases hname : entryName = name
      · subst hname
        simp [put, find?, Ne.symm h]
      · simp [put, find?, hname, ih]

@[simp] theorem find?_erase_self (name : FileName) (d : Directory) :
    (d.erase name).find? name = none := by
  induction d using entryInduction with
  | empty => rfl
  | entry other node rest ih =>
      by_cases h : other = name
      · simp [erase, h, ih]
      · simp [erase, find?, h, ih]

theorem find?_erase_ne {name other : FileName} (h : other ≠ name) (d : Directory) :
    (d.erase name).find? other = d.find? other := by
  induction d using entryInduction with
  | empty => rfl
  | entry entryName node rest ih =>
      by_cases hname : entryName = name
      · subst hname
        simp [erase, find?, Ne.symm h, ih]
      · simp [erase, find?, hname, ih]

theorem erase_of_notMem {name : FileName} {d : Directory} (h : name ∉ d.names) :
    d.erase name = d := by
  induction d using entryInduction with
  | empty => rfl
  | entry other node rest ih =>
      simp only [names, List.mem_cons, not_or] at h
      rw [erase, if_neg (Ne.symm h.1), ih h.2]

theorem erase_put_of_notMem {name : FileName} {d : Directory} (h : name ∉ d.names)
    (node : Node) : (d.put name node).erase name = d := by
  induction d using entryInduction with
  | empty => simp [put, erase]
  | entry other old rest ih =>
      simp only [names, List.mem_cons, not_or] at h
      have hne : other ≠ name := Ne.symm h.1
      simp only [put, if_neg hne, erase]
      rw [ih h.2]

theorem erase_put_self (name : FileName) (node : Node) (d : Directory) :
    (d.put name node).erase name = d.erase name := by
  induction d using entryInduction with
  | empty => simp [put, erase]
  | entry other old rest ih =>
      by_cases h : other = name
      · simp [put, erase, h]
      · simp [put, erase, h, ih]

theorem put_put_self (name : FileName) (first second : Node) (d : Directory) :
    (d.put name first).put name second = d.put name second := by
  induction d using entryInduction with
  | empty => simp [put]
  | entry other old rest ih =>
      by_cases h : other = name
      · simp [put, h]
      · simp [put, h, ih]

/-- Adding an entry, replacing another and removing the first one again. -/
theorem erase_put_put {name other : FileName} (hne : other ≠ name) {d : Directory}
    (hfresh : name ∉ d.names) (node new : Node) :
    ((d.put name node).put other new).erase name = d.put other new := by
  induction d using entryInduction with
  | empty => simp [put, erase, Ne.symm hne, hne]
  | entry entryName old rest ih =>
      simp only [names, List.mem_cons, not_or] at hfresh
      have hname : entryName ≠ name := Ne.symm hfresh.1
      by_cases hother : entryName = other
      · subst hother
        simp only [put, if_neg hne, if_pos, erase]
        rw [erase_put_of_notMem hfresh.2]
      · simp only [put, if_neg hname, if_neg hother, erase]
        rw [ih hfresh.2]

theorem mem_names_put {name other : FileName} {node : Node} {d : Directory} :
    other ∈ (d.put name node).names ↔ other = name ∨ other ∈ d.names := by
  induction d using entryInduction with
  | empty => simp [put, names]
  | entry entryName old rest ih =>
      by_cases h : entryName = name
      · subst h
        simp [put, names]
      · simp only [put, if_neg h, names, List.mem_cons, ih]
        tauto

theorem mem_names_of_mem_erase {name other : FileName} {d : Directory}
    (h : other ∈ (d.erase name).names) : other ∈ d.names := by
  induction d using entryInduction with
  | empty => exact h
  | entry entryName node rest ih =>
      by_cases hname : entryName = name
      · rw [erase, if_pos hname] at h
        exact List.mem_cons_of_mem _ (ih h)
      · rw [erase, if_neg hname] at h
        rcases List.mem_cons.mp h with rfl | hrest
        · exact List.mem_cons_self
        · exact List.mem_cons_of_mem _ (ih hrest)

theorem exists_find?_of_mem_names {name : FileName} {d : Directory} (h : name ∈ d.names) :
    ∃ node, d.find? name = some node := by
  induction d using entryInduction with
  | empty => simp [names] at h
  | entry other old rest ih =>
      by_cases hname : other = name
      · exact ⟨old, by rw [find?, if_pos hname]⟩
      · rw [find?, if_neg hname]
        exact ih ((List.mem_cons.mp h).resolve_left (Ne.symm hname))

theorem mem_names_of_find? {name : FileName} {node : Node} {d : Directory}
    (h : d.find? name = some node) : name ∈ d.names := by
  induction d using entryInduction with
  | empty => simp [find?] at h
  | entry other old rest ih =>
      by_cases hname : other = name
      · simp [names, hname]
      · rw [find?, if_neg hname] at h
        exact List.mem_cons_of_mem _ (ih h)

end Directory

/-! ## Paths into a tree -/

/-- Follow a path of entry names.  Only directories have entries. -/
def Node.lookup : List FileName → Node → Option Node
  | [], node => some node
  | name :: path, .directory d => (d.find? name).bind (Node.lookup path)
  | _ :: _, _ => none

/-- The node at a path below a directory. -/
def Directory.lookup (path : List FileName) (d : Directory) : Option Node :=
  Node.lookup path (.directory d)

@[simp] theorem Directory.lookup_nil (d : Directory) :
    d.lookup [] = some (.directory d) := rfl

theorem Directory.lookup_cons (name : FileName) (path : List FileName) (d : Directory) :
    d.lookup (name :: path) = (d.find? name).bind (Node.lookup path) := rfl

@[simp] theorem Directory.lookup_singleton (name : FileName) (d : Directory) :
    d.lookup [name] = d.find? name := by
  cases h : d.find? name <;> simp [Directory.lookup_cons, h, Node.lookup]

theorem Directory.lookup_put_ne {name other : FileName} (h : other ≠ name) (node : Node)
    (path : List FileName) (d : Directory) :
    (d.put name node).lookup (other :: path) = d.lookup (other :: path) := by
  rw [Directory.lookup_cons, Directory.lookup_cons, Directory.find?_put_ne h]

theorem Directory.lookup_erase_self (name : FileName) (path : List FileName) (d : Directory) :
    (d.erase name).lookup (name :: path) = none := by
  rw [Directory.lookup_cons, Directory.find?_erase_self]
  rfl

theorem Directory.lookup_erase_ne {name other : FileName} (h : other ≠ name)
    (path : List FileName) (d : Directory) :
    (d.erase name).lookup (other :: path) = d.lookup (other :: path) := by
  rw [Directory.lookup_cons, Directory.lookup_cons, Directory.find?_erase_ne h]

theorem Node.lookup_append (p q : List FileName) (node : Node) :
    Node.lookup (p ++ q) node = (Node.lookup p node).bind (Node.lookup q) := by
  induction p generalizing node with
  | nil => rfl
  | cons name p ih =>
      cases node with
      | directory d =>
          simp only [List.cons_append, Node.lookup]
          cases d.find? name with
          | none => rfl
          | some child => exact ih child
      | file content => simp [Node.lookup]
      | symlink resolves => simp [Node.lookup]
      | special => simp [Node.lookup]

theorem Directory.lookup_append (p q : List FileName) (d : Directory) :
    d.lookup (p ++ q) = (d.lookup p).bind (Node.lookup q) :=
  Node.lookup_append p q _

namespace Directory

/-- Rewrite the entry at a path whose parent directory exists: `change` maps the
entry that is there to the entry that replaces it, `none` being no entry. -/
def atEntry (change : Option Node → Except IoError (Option Node)) :
    List FileName → Directory → Except IoError Directory
  | [], _ => .error .invalidInput
  | [name], d =>
      match change (d.find? name) with
      | .error e => .error e
      | .ok none => .ok (d.erase name)
      | .ok (some node) => .ok (d.put name node)
  | name :: next :: path, d =>
      match d.find? name with
      | none => .error .notFound
      | some (.directory sub) =>
          match atEntry change (next :: path) sub with
          | .error e => .error e
          | .ok sub' => .ok (d.put name (.directory sub'))
      | some _ => .error .notADirectory

/-- Behind the first name of a longer path lies a directory, which is rewritten in its turn. -/
theorem exists_of_atEntry_cons {change : Option Node → Except IoError (Option Node)}
    {name next : FileName} {path : List FileName} {d d' : Directory}
    (h : atEntry change (name :: next :: path) d = .ok d') :
    ∃ sub sub', d.find? name = some (.directory sub) ∧
      atEntry change (next :: path) sub = .ok sub' ∧ d' = d.put name (.directory sub') := by
  simp only [atEntry] at h
  split at h
  · contradiction
  · rename_i sub hfind
    split at h
    · contradiction
    · rename_i sub' hsub
      exact ⟨sub, sub', hfind, hsub, (Except.ok.inj h).symm⟩
  · contradiction

/-- The rewritten entry is what `change` returned. -/
theorem lookup_atEntry_self {change : Option Node → Except IoError (Option Node)}
    {path : List FileName} {d d' : Directory} (h : atEntry change path d = .ok d') :
    change (d.lookup path) = .ok (d'.lookup path) := by
  induction path generalizing d d' with
  | nil => simp [atEntry] at h
  | cons name path ih =>
      cases path with
      | nil =>
          simp only [atEntry] at h
          rw [lookup_singleton, lookup_singleton]
          split at h
          · contradiction
          · rename_i hchange
            obtain rfl := Except.ok.inj h
            simp [hchange]
          · rename_i hchange
            obtain rfl := Except.ok.inj h
            simp [hchange]
      | cons next path =>
          obtain ⟨sub, sub', hfind, hsub, rfl⟩ := exists_of_atEntry_cons h
          rw [lookup_cons, lookup_cons, find?_put_self, hfind]
          exact ih hsub

/-- Nothing off the path changes. -/
theorem lookup_atEntry_frame {change : Option Node → Except IoError (Option Node)}
    {path : List FileName} {d d' : Directory} (h : atEntry change path d = .ok d')
    {other : List FileName} (hleft : ¬ path <+: other) (hright : ¬ other <+: path) :
    d'.lookup other = d.lookup other := by
  induction path generalizing d d' other with
  | nil => exact absurd (List.nil_prefix) hleft
  | cons name path ih =>
      cases other with
      | nil => exact absurd (List.nil_prefix) hright
      | cons otherName other =>
          by_cases hname : otherName = name
          · subst hname
            have hleft' : ¬ path <+: other := fun hp =>
              hleft (List.cons_prefix_cons.mpr ⟨rfl, hp⟩)
            have hright' : ¬ other <+: path := fun hp =>
              hright (List.cons_prefix_cons.mpr ⟨rfl, hp⟩)
            cases path with
            | nil => exact absurd (List.nil_prefix) hleft'
            | cons next path =>
                obtain ⟨sub, sub', hfind, hsub, rfl⟩ := exists_of_atEntry_cons h
                rw [lookup_cons, lookup_cons, find?_put_self, hfind]
                exact ih hsub hleft' hright'
          · have hfind : d'.find? otherName = d.find? otherName := by
              cases path with
              | nil =>
                  simp only [atEntry] at h
                  split at h
                  · contradiction
                  · obtain rfl := Except.ok.inj h
                    exact find?_erase_ne hname d
                  · obtain rfl := Except.ok.inj h
                    exact find?_put_ne hname _ d
              | cons next path =>
                  obtain ⟨sub, sub', -, -, rfl⟩ := exists_of_atEntry_cons h
                  exact find?_put_ne hname _ d
            rw [lookup_cons, lookup_cons, hfind]

/-- Seen from the parent directory, only the one entry is rewritten. -/
theorem lookup_parent_atEntry {change : Option Node → Except IoError (Option Node)}
    {parent : List FileName} {name : FileName} {root root' d : Directory}
    (hparent : root.lookup parent = some (.directory d))
    (h : atEntry change (parent ++ [name]) root = .ok root') :
    ∃ d', atEntry change [name] d = .ok d' ∧ root'.lookup parent = some (.directory d') := by
  induction parent generalizing root root' with
  | nil =>
      obtain rfl : root = d := by simpa using hparent
      exact ⟨root', h, lookup_nil root'⟩
  | cons first parent ih =>
      obtain ⟨next, path, hpath⟩ : ∃ next path, parent ++ [name] = next :: path :=
        List.exists_cons_of_ne_nil (by simp)
      rw [List.cons_append, hpath] at h
      obtain ⟨sub, sub', hfind, hsub, rfl⟩ := exists_of_atEntry_cons h
      rw [lookup_cons, hfind] at hparent
      rw [← hpath] at hsub
      obtain ⟨d', hd', hlookup⟩ := ih hparent hsub
      refine ⟨d', hd', ?_⟩
      rw [lookup_cons, find?_put_self]
      exact hlookup

/-- The rewriting goes through when the parent is a directory and `change`
accepts the entry. -/
theorem exists_atEntry {change : Option Node → Except IoError (Option Node)}
    {parent : List FileName} {name : FileName} {d sub : Directory} {new : Option Node}
    (hparent : d.lookup parent = some (.directory sub))
    (hchange : change (d.lookup (parent ++ [name])) = .ok new) :
    ∃ d', atEntry change (parent ++ [name]) d = .ok d' := by
  induction parent generalizing d with
  | nil =>
      rw [List.nil_append, lookup_singleton] at hchange
      cases new <;> simp [atEntry, hchange]
  | cons first parent ih =>
      rw [lookup_cons] at hparent
      cases hfirst : d.find? first with
      | none => simp [hfirst] at hparent
      | some node =>
          rw [hfirst, Option.bind_some] at hparent
          cases node with
          | directory inner =>
              have hinner : inner.lookup (parent ++ [name]) = d.lookup (first :: parent ++ [name]) := by
                rw [List.cons_append, lookup_cons, hfirst]
                rfl
              obtain ⟨inner', hrec⟩ := ih (d := inner) hparent (by rw [hinner]; exact hchange)
              cases hcase : parent ++ [name] with
              | nil => simp at hcase
              | cons next path =>
                  rw [hcase] at hrec
                  exact ⟨d.put first (.directory inner'), by simp [hcase, atEntry, hfirst, hrec]⟩
          | file content =>
              cases parent with
              | nil => simp [Node.lookup] at hparent
              | cons next path => simp [Node.lookup] at hparent
          | symlink resolves =>
              cases parent with
              | nil => simp [Node.lookup] at hparent
              | cons next path => simp [Node.lookup] at hparent
          | special =>
              cases parent with
              | nil => simp [Node.lookup] at hparent
              | cons next path => simp [Node.lookup] at hparent

/-- Only a directory has entries: above a rewritten entry there is one before and behind. -/
theorem exists_directory_of_atEntry {change : Option Node → Except IoError (Option Node)}
    {ancestor path : List FileName} {name : FileName} {d d' : Directory}
    (h : atEntry change (ancestor ++ name :: path) d = .ok d') :
    (∃ sub, d.lookup ancestor = some (.directory sub)) ∧
      ∃ sub, d'.lookup ancestor = some (.directory sub) := by
  induction ancestor generalizing d d' with
  | nil => exact ⟨⟨d, lookup_nil d⟩, d', lookup_nil d'⟩
  | cons first ancestor ih =>
      obtain ⟨next, rest, hrest⟩ : ∃ next rest, ancestor ++ name :: path = next :: rest :=
        List.exists_cons_of_ne_nil (by simp)
      rw [List.cons_append, hrest] at h
      obtain ⟨sub, sub', hfind, hsub, rfl⟩ := exists_of_atEntry_cons h
      rw [← hrest] at hsub
      obtain ⟨hbefore, hbehind⟩ := ih hsub
      rw [lookup_cons, lookup_cons, hfind, find?_put_self]
      exact ⟨hbefore, hbehind⟩

/-! ## Distinct names -/

/-- No two entries of any directory of the tree share a name. -/
def Distinct : Directory → Prop
  | .empty => True
  | .entry name (.directory children) rest =>
      name ∉ rest.names ∧ children.Distinct ∧ rest.Distinct
  | .entry name (.file _) rest => name ∉ rest.names ∧ rest.Distinct
  | .entry name (.symlink _) rest => name ∉ rest.names ∧ rest.Distinct
  | .entry name .special rest => name ∉ rest.names ∧ rest.Distinct
termination_by structural d => d

end Directory

/-- Distinct names below a node. -/
def Node.Distinct : Node → Prop
  | .directory d => d.Distinct
  | .file _ | .symlink _ | .special => True

namespace Directory

theorem distinct_entry {name : FileName} {node : Node} {rest : Directory} :
    (entry name node rest).Distinct ↔ name ∉ rest.names ∧ node.Distinct ∧ rest.Distinct := by
  cases node <;> simp [Distinct, Node.Distinct]

theorem Distinct.find? {d : Directory} (h : d.Distinct) {name : FileName} {node : Node}
    (hfind : d.find? name = some node) : node.Distinct := by
  induction d using entryInduction with
  | empty => simp [Directory.find?] at hfind
  | entry other old rest ih =>
      obtain ⟨-, hold, hrest⟩ := distinct_entry.mp h
      by_cases hname : other = name
      · simp only [Directory.find?, if_pos hname, Option.some.injEq] at hfind
        exact hfind ▸ hold
      · exact ih hrest (by simpa [Directory.find?, hname] using hfind)

theorem Distinct.put {d : Directory} (h : d.Distinct) (name : FileName) {node : Node}
    (hnode : node.Distinct) : (d.put name node).Distinct := by
  induction d using entryInduction with
  | empty => exact distinct_entry.mpr ⟨by simp [names], hnode, trivial⟩
  | entry other old rest ih =>
      obtain ⟨hfresh, hold, hrest⟩ := distinct_entry.mp h
      by_cases hname : other = name
      · subst hname
        rw [Directory.put, if_pos rfl]
        exact distinct_entry.mpr ⟨hfresh, hnode, hrest⟩
      · rw [Directory.put, if_neg hname]
        refine distinct_entry.mpr ⟨?_, hold, ih hrest⟩
        simp [mem_names_put, hname, hfresh]

theorem Distinct.erase {d : Directory} (h : d.Distinct) (name : FileName) :
    (d.erase name).Distinct := by
  induction d using entryInduction with
  | empty => exact h
  | entry other old rest ih =>
      obtain ⟨hfresh, hold, hrest⟩ := distinct_entry.mp h
      by_cases hname : other = name
      · rw [Directory.erase, if_pos hname]
        exact ih hrest
      · rw [Directory.erase, if_neg hname]
        exact distinct_entry.mpr ⟨fun hmem => hfresh (mem_names_of_mem_erase hmem), hold, ih hrest⟩

theorem Distinct.atEntry {change : Option Node → Except IoError (Option Node)}
    (hchange : ∀ old new, (∀ node, old = some node → node.Distinct) →
      change old = .ok (some new) → new.Distinct)
    {path : List FileName} {d d' : Directory} (h : d.Distinct)
    (hstep : d.atEntry change path = .ok d') : d'.Distinct := by
  induction path generalizing d d' with
  | nil => simp [Directory.atEntry] at hstep
  | cons name path ih =>
      cases path with
      | nil =>
          simp only [Directory.atEntry] at hstep
          split at hstep
          · contradiction
          · obtain rfl := Except.ok.inj hstep
            exact h.erase name
          · rename_i node hnode
            obtain rfl := Except.ok.inj hstep
            exact h.put name (hchange _ _ (fun old hold => h.find? hold) hnode)
      | cons next path =>
          obtain ⟨sub, sub', hfind, hsub, rfl⟩ := exists_of_atEntry_cons hstep
          have hsubDistinct : sub.Distinct := h.find? hfind
          exact h.put name (show Node.Distinct (.directory sub') from ih hsubDistinct hsub)

/-! ## The regular files of a tree -/

/-- Every regular file with its path, in the order of a depth-first walk. -/
def files : Directory → List (List FileName × Bytes)
  | .empty => []
  | .entry name (.file content) rest => ([name], content) :: rest.files
  | .entry name (.directory children) rest =>
      children.files.map (fun file => (name :: file.1, file.2)) ++ rest.files
  | .entry _ (.symlink _) rest => rest.files
  | .entry _ .special rest => rest.files
termination_by structural d => d

/-- The tree has regular files and directories only. -/
def Plain : Directory → Prop
  | .empty => True
  | .entry _ (.file _) rest => rest.Plain
  | .entry _ (.directory children) rest => children.Plain ∧ rest.Plain
  | .entry _ (.symlink _) _ => False
  | .entry _ .special _ => False
termination_by structural d => d

end Directory

/-- Only regular files and directories below a node. -/
def Node.Plain : Node → Prop
  | .file _ => True
  | .directory d => d.Plain
  | .symlink _ | .special => False

namespace Directory

theorem plain_entry {name : FileName} {node : Node} {rest : Directory} :
    (entry name node rest).Plain ↔ node.Plain ∧ rest.Plain := by
  cases node <;> simp [Plain, Node.Plain]

theorem Plain.find? {d : Directory} (hd : d.Plain) {name : FileName} {node : Node}
    (h : d.find? name = some node) : node.Plain := by
  induction d using entryInduction with
  | empty => simp [Directory.find?] at h
  | entry other old rest ih =>
      obtain ⟨hold, hrest⟩ := plain_entry.mp hd
      by_cases hname : other = name
      · rw [Directory.find?, if_pos hname] at h
        exact Option.some.inj h ▸ hold
      · rw [Directory.find?, if_neg hname] at h
        exact ih hrest h

/-- A directory is plain when it is so without one entry and that entry is. -/
theorem plain_of_plain_erase {d : Directory} (hd : d.Distinct) {name : FileName} {node : Node}
    (hfind : d.find? name = some node) (hnode : node.Plain) (hrest : (d.erase name).Plain) :
    d.Plain := by
  induction d using entryInduction with
  | empty => trivial
  | entry other old rest ih =>
      obtain ⟨hfresh, -, hdistinct⟩ := distinct_entry.mp hd
      by_cases hname : other = name
      · subst hname
        obtain rfl : old = node := by simpa [find?] using hfind
        have herase : rest.erase other = rest := erase_of_notMem hfresh
        rw [erase, if_pos rfl, herase] at hrest
        exact plain_entry.mpr ⟨hnode, hrest⟩
      · rw [find?, if_neg hname] at hfind
        rw [erase, if_neg hname] at hrest
        obtain ⟨hold, hrest⟩ := plain_entry.mp hrest
        exact plain_entry.mpr ⟨hold, ih hdistinct hfind hrest⟩

/-- The number of entries of a directory and of all directories below it. -/
def entryCount : Directory → Nat
  | .empty => 0
  | .entry _ (.directory children) rest => 1 + children.entryCount + rest.entryCount
  | .entry _ (.file _) rest => 1 + rest.entryCount
  | .entry _ (.symlink _) rest => 1 + rest.entryCount
  | .entry _ .special rest => 1 + rest.entryCount
termination_by structural d => d

theorem entryCount_entry (name : FileName) (node : Node) (rest : Directory) :
    (entry name node rest).entryCount = (entry name node .empty).entryCount + rest.entryCount := by
  cases node <;> simp only [entryCount, Nat.add_zero]

theorem length_files_le_entryCount (d : Directory) : d.files.length ≤ d.entryCount := by
  induction d using treeInduction with
  | empty => simp [files]
  | file name content rest ih =>
      simp only [files, entryCount, List.length_cons]
      omega
  | directory name children rest ihChildren ihRest =>
      simp only [files, entryCount, List.length_append, List.length_map]
      omega
  | symlink name resolves rest ih =>
      simp only [files, entryCount]
      omega
  | special name rest ih =>
      simp only [files, entryCount]
      omega

theorem ne_nil_of_mem_files {d : Directory} {file : List FileName × Bytes}
    (h : file ∈ d.files) : file.1 ≠ [] := by
  induction d using treeInduction with
  | empty => simp [files] at h
  | file name content rest ih =>
      rcases List.mem_cons.mp h with rfl | hrest
      · simp
      · exact ih hrest
  | directory name children rest ihChildren ihRest =>
      rcases List.mem_append.mp h with hmem | hrest
      · obtain ⟨inner, -, rfl⟩ := List.mem_map.mp hmem
        simp
      · exact ihRest hrest
  | symlink name resolves rest ih => exact ih h
  | special name rest ih => exact ih h

/-- The first name of a file's path is an entry of the directory. -/
theorem mem_names_of_mem_files {d : Directory} {name : FileName} {path : List FileName}
    {content : Bytes} (h : (name :: path, content) ∈ d.files) : name ∈ d.names := by
  induction d using treeInduction with
  | empty => simp [files] at h
  | file other old rest ih =>
      rcases List.mem_cons.mp h with heq | hrest
      · simp_all [names]
      · exact List.mem_cons_of_mem _ (ih hrest)
  | directory other children rest ihChildren ihRest =>
      rcases List.mem_append.mp h with hmem | hrest
      · obtain ⟨inner, -, heq⟩ := List.mem_map.mp hmem
        simp_all [names]
      · exact List.mem_cons_of_mem _ (ihRest hrest)
  | symlink other resolves rest ih => exact List.mem_cons_of_mem _ (ih h)
  | special other rest ih => exact List.mem_cons_of_mem _ (ih h)

/-- No path occurs twice. -/
theorem nodup_files {d : Directory} (hd : d.Distinct) : (d.files.map Prod.fst).Nodup := by
  induction d using treeInduction with
  | empty => simp [files]
  | file name content rest ih =>
      obtain ⟨hfresh, -, hrest⟩ := distinct_entry.mp hd
      simp only [files, List.map_cons, List.nodup_cons]
      refine ⟨fun hmem => ?_, ih hrest⟩
      obtain ⟨⟨path, content'⟩, hfile, rfl⟩ := List.mem_map.mp hmem
      exact hfresh (mem_names_of_mem_files hfile)
  | directory name children rest ihChildren ihRest =>
      obtain ⟨hfresh, hchildren, hrest⟩ := distinct_entry.mp hd
      simp only [files, List.map_append, List.map_map, List.nodup_append]
      refine ⟨?_, ihRest hrest, ?_⟩
      · have hcons : (Prod.fst ∘ fun file : List FileName × Bytes => (name :: file.1, file.2)) =
            (name :: ·) ∘ Prod.fst := rfl
        rw [hcons, ← List.map_map]
        exact List.Nodup.map List.cons_injective (ihChildren hchildren)
      · intro path hpath other hother heq
        obtain ⟨child, -, rfl⟩ := List.mem_map.mp hpath
        obtain ⟨⟨path, content⟩, hfile, rfl⟩ := List.mem_map.mp hother
        dsimp only [Function.comp] at heq
        subst heq
        exact hfresh (mem_names_of_mem_files hfile)
  | symlink name resolves rest ih => exact ih (distinct_entry.mp hd).2.2
  | special name rest ih => exact ih (distinct_entry.mp hd).2.2

/-- In a tree with distinct names the regular files are those that a path finds. -/
theorem mem_files_iff {d : Directory} (hd : d.Distinct) {path : List FileName}
    {content : Bytes} : (path, content) ∈ d.files ↔ d.lookup path = some (.file content) := by
  cases path with
  | nil =>
      refine ⟨fun h => absurd rfl (ne_nil_of_mem_files h), fun h => ?_⟩
      simp at h
  | cons name path =>
      induction d using treeInduction generalizing name path with
      | empty => simp [files, lookup_cons, find?]
      | file other old rest ih =>
          obtain ⟨hfresh, -, hrest⟩ := distinct_entry.mp hd
          by_cases hname : other = name
          · subst hname
            have habsent : (other :: path, content) ∉ rest.files := fun h =>
              hfresh (mem_names_of_mem_files h)
            cases path <;>
              simp [files, lookup_cons, find?, Node.lookup, habsent, eq_comm]
          · rw [files, List.mem_cons, ih hrest name path]
            simp [lookup_cons, find?, hname, Ne.symm hname]
      | directory other children rest ihChildren ihRest =>
          obtain ⟨hfresh, hchildren, hrest⟩ := distinct_entry.mp hd
          by_cases hname : other = name
          · subst hname
            have habsent : (other :: path, content) ∉ rest.files := fun h =>
              hfresh (mem_names_of_mem_files h)
            have hinner : (path, content) ∈ children.files ↔
                children.lookup path = some (.file content) := by
              cases path with
              | nil =>
                  refine ⟨fun h => absurd rfl (ne_nil_of_mem_files h), fun h => ?_⟩
                  simp at h
              | cons next path => exact ihChildren hchildren next path
            simp only [files, List.mem_append, List.mem_map, Prod.mk.injEq, List.cons.injEq,
              true_and, habsent, or_false, Prod.exists, lookup_cons, find?, if_pos,
              Option.bind_some]
            constructor
            · rintro ⟨p, c, hmem, rfl, rfl⟩
              exact hinner.mp hmem
            · exact fun h => ⟨path, content, hinner.mpr h, rfl, rfl⟩
          · rw [files, List.mem_append, ihRest hrest name path]
            simp [lookup_cons, find?, hname]
      | symlink other resolves rest ih =>
          obtain ⟨hfresh, -, hrest⟩ := distinct_entry.mp hd
          by_cases hname : other = name
          · subst hname
            have habsent : (other :: path, content) ∉ rest.files := fun h =>
              hfresh (mem_names_of_mem_files h)
            cases path <;> simp [files, lookup_cons, find?, Node.lookup, habsent]
          · rw [files, ih hrest name path]
            simp [lookup_cons, find?, hname]
      | special other rest ih =>
          obtain ⟨hfresh, -, hrest⟩ := distinct_entry.mp hd
          by_cases hname : other = name
          · subst hname
            have habsent : (other :: path, content) ∉ rest.files := fun h =>
              hfresh (mem_names_of_mem_files h)
            cases path <;> simp [files, lookup_cons, find?, Node.lookup, habsent]
          · rw [files, ih hrest name path]
            simp [lookup_cons, find?, hname]

end Directory

end Library
end Benchplane
