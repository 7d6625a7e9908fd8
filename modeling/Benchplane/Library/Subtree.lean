import Benchplane.Library.FileOperations

/-!
# Operations inside a directory

An operation on paths inside a directory acts on that directory alone: it goes through
exactly when it would with the directory as the root, and leaves in its place what it would
leave there.
-/

namespace Benchplane
namespace Library

/-- Only below a directory there is a directory. -/
theorem Node.exists_directory_of_lookup {path : List FileName} {node : Node} {d : Directory}
    (h : Node.lookup path node = some (.directory d)) :
    ∃ sub, node = .directory sub ∧ sub.lookup path = some (.directory d) := by
  cases node with
  | directory sub => exact ⟨sub, rfl, h⟩
  | file content => cases path <;> simp [Node.lookup] at h
  | symlink resolves => cases path <;> simp [Node.lookup] at h
  | special => cases path <;> simp [Node.lookup] at h

/-- A rewriting inside a directory is refused for the same reason as with the directory as
the root. -/
theorem Directory.atEntry_inside_error {change : Option Node → Except IoError (Option Node)}
    {base path : List FileName} {root d : Directory}
    (hbase : root.lookup base = some (.directory d)) (hpath : path ≠ []) {e : IoError}
    (h : d.atEntry change path = .error e) :
    root.atEntry change (base ++ path) = .error e := by
  induction base generalizing root with
  | nil =>
      obtain rfl : root = d := by simpa using hbase
      exact h
  | cons first base ih =>
      obtain ⟨next, rest, hrest⟩ : ∃ next rest, base ++ path = next :: rest :=
        List.exists_cons_of_ne_nil (by simp [hpath])
      rw [Directory.lookup_cons] at hbase
      obtain ⟨node, hfirst, hnode⟩ := Option.bind_eq_some_iff.mp hbase
      obtain ⟨sub, rfl, hsub⟩ := Node.exists_directory_of_lookup hnode
      rw [List.cons_append, hrest]
      simp only [atEntry, hfirst]
      rw [← hrest, ih hsub]

/-- A rewriting inside a directory goes through, and leaves in its place what it leaves with
the directory as the root. -/
theorem Directory.atEntry_inside {change : Option Node → Except IoError (Option Node)}
    {base path : List FileName} {root d d' : Directory}
    (hbase : root.lookup base = some (.directory d)) (hpath : path ≠ [])
    (h : d.atEntry change path = .ok d') :
    ∃ root', root.atEntry change (base ++ path) = .ok root' ∧
      root'.lookup base = some (.directory d') := by
  induction base generalizing root with
  | nil =>
      obtain rfl : root = d := by simpa using hbase
      exact ⟨d', h, lookup_nil d'⟩
  | cons first base ih =>
      obtain ⟨next, rest, hrest⟩ : ∃ next rest, base ++ path = next :: rest :=
        List.exists_cons_of_ne_nil (by simp [hpath])
      rw [Directory.lookup_cons] at hbase
      obtain ⟨node, hfirst, hnode⟩ := Option.bind_eq_some_iff.mp hbase
      obtain ⟨sub, rfl, hsub⟩ := Node.exists_directory_of_lookup hnode
      obtain ⟨sub', hrun, hlookup⟩ := ih hsub
      refine ⟨root.put first (.directory sub'), ?_, ?_⟩
      · rw [List.cons_append, hrest]
        simp only [atEntry, hfirst]
        rw [← hrest, hrun]
      · rw [lookup_cons, find?_put_self]
        exact hlookup

namespace FileOperation

/-- The operation on the same paths inside a directory. -/
def inside (base : List FileName) : FileOperation → FileOperation
  | .createDirectory path => .createDirectory (base ++ path)
  | .ensureDirectory path => .ensureDirectory (base ++ path)
  | .createFile path => .createFile (base ++ path)
  | .append path bytes => .append (base ++ path) bytes
  | .rename source target => .rename (base ++ source) (base ++ target)

variable {op : FileOperation} {base : List FileName} {root d : Directory}

theorem ne_nil_of_scope {path : List FileName} (h : [] ∉ [path]) : path ≠ [] := by
  rintro rfl
  exact h List.mem_cons_self

theorem run_inside_error (hbase : root.lookup base = some (.directory d))
    (hscope : [] ∉ op.scope) {e : IoError} (h : op.run d = .error e) :
    (op.inside base).run root = .error e := by
  cases op with
  | createDirectory path => exact Directory.atEntry_inside_error hbase (ne_nil_of_scope hscope) h
  | ensureDirectory path => exact Directory.atEntry_inside_error hbase (ne_nil_of_scope hscope) h
  | createFile path => exact Directory.atEntry_inside_error hbase (ne_nil_of_scope hscope) h
  | append path bytes => exact Directory.atEntry_inside_error hbase (ne_nil_of_scope hscope) h
  | rename source target =>
      obtain ⟨hsource, htarget⟩ : source ≠ [] ∧ target ≠ [] := by
        simpa [scope, eq_comm] using hscope
      have hnode : root.lookup (base ++ source) = d.lookup source := by
        rw [Directory.lookup_append, hbase]
        rfl
      simp only [run, inside, hnode, List.append_cancel_left_eq, List.prefix_append_right_inj] at h ⊢
      cases hfound : d.lookup source with
      | none => simpa [hfound] using h
      | some node =>
          rw [hfound] at h
          dsimp only at h ⊢
          by_cases hsame : source = target
          · rw [if_pos hsame] at h
            contradiction
          rw [if_neg hsame] at h ⊢
          by_cases hbelow : source <+: target
          · rw [if_pos hbelow] at h ⊢
            exact h
          rw [if_neg hbelow] at h ⊢
          -- the rename fails at its first change, or at its second
          cases hplaced : d.atEntry (Change.replaceBy node) target with
          | error e' =>
              rw [hplaced] at h
              rw [Directory.atEntry_inside_error hbase htarget hplaced]
              exact h
          | ok mid =>
              rw [hplaced] at h
              obtain ⟨root', hroot', hmid⟩ := Directory.atEntry_inside hbase htarget hplaced
              rw [hroot']
              exact Directory.atEntry_inside_error hmid hsource h

theorem run_inside (hbase : root.lookup base = some (.directory d)) (hscope : [] ∉ op.scope)
    {d' : Directory} (h : op.run d = .ok d') :
    ∃ root', (op.inside base).run root = .ok root' ∧
      root'.lookup base = some (.directory d') := by
  cases op with
  | createDirectory path => exact Directory.atEntry_inside hbase (ne_nil_of_scope hscope) h
  | ensureDirectory path => exact Directory.atEntry_inside hbase (ne_nil_of_scope hscope) h
  | createFile path => exact Directory.atEntry_inside hbase (ne_nil_of_scope hscope) h
  | append path bytes => exact Directory.atEntry_inside hbase (ne_nil_of_scope hscope) h
  | rename source target =>
      obtain ⟨hsource, htarget⟩ : source ≠ [] ∧ target ≠ [] := by
        simpa [scope, eq_comm] using hscope
      have hnode : root.lookup (base ++ source) = d.lookup source := by
        rw [Directory.lookup_append, hbase]
        rfl
      simp only [run, inside, hnode, List.append_cancel_left_eq, List.prefix_append_right_inj] at h ⊢
      cases hfound : d.lookup source with
      | none => simp [hfound] at h
      | some node =>
          rw [hfound] at h
          dsimp only at h ⊢
          by_cases hsame : source = target
          · rw [if_pos hsame] at h ⊢
            obtain rfl := Except.ok.inj h
            exact ⟨root, rfl, hbase⟩
          rw [if_neg hsame] at h ⊢
          by_cases hbelow : source <+: target
          · rw [if_pos hbelow] at h
            contradiction
          rw [if_neg hbelow] at h ⊢
          -- both changes of the rename are made inside
          cases hplaced : d.atEntry (Change.replaceBy node) target with
          | error e =>
              rw [hplaced] at h
              contradiction
          | ok mid =>
              rw [hplaced] at h
              obtain ⟨root', hroot', hmid⟩ := Directory.atEntry_inside hbase htarget hplaced
              rw [hroot']
              exact Directory.atEntry_inside hmid hsource h

end FileOperation

namespace FileTree

variable {op : FileOperation} {base : List FileName} {tree tree' : FileTree} {d d' : Directory}

/-- An operation inside a directory goes through when it does with the directory as the
root. -/
theorem exists_apply_inside (hbase : tree.lookup base = some (.directory d))
    (hscope : [] ∉ op.scope) (h : op.run d = .ok d') :
    ∃ tree', (op.inside base).apply tree = .ok tree' ∧
      tree'.lookup base = some (.directory d') := by
  obtain ⟨root', hrun, hlookup⟩ := FileOperation.run_inside hbase hscope h
  obtain ⟨tree', happly, hroot⟩ := FileOperation.apply_of_run hrun
  refine ⟨tree', happly, ?_⟩
  rw [lookup, hroot]
  exact hlookup

/-- An operation inside a directory that goes through does so with the directory as the root. -/
theorem run_of_apply_inside (hbase : tree.lookup base = some (.directory d))
    (hscope : [] ∉ op.scope) (happly : (op.inside base).apply tree = .ok tree') :
    ∃ d', op.run d = .ok d' ∧ tree'.lookup base = some (.directory d') := by
  cases hrun : op.run d with
  | error e =>
      have hrefused := FileOperation.run_inside_error hbase hscope hrun
      rw [FileOperation.run_of_apply happly] at hrefused
      contradiction
  | ok d' =>
      obtain ⟨other, hother, hlookup⟩ := exists_apply_inside hbase hscope hrun
      obtain rfl : other = tree' := Except.ok.inj (hother.symm.trans happly)
      exact ⟨d', rfl, hlookup⟩

end FileTree

end Library
end Benchplane
