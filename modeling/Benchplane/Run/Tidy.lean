import Benchplane.Run.ProducedRecords
import Benchplane.Run.Publication
import Benchplane.WorkingDisk

/-!
# A tidy staging directory

While a run goes on, its staging directory holds the attempt's directories, payloads, the
temporary file of at most one payload, and nothing else.  On a working disk nothing is
then in the way of the next operation.
-/

namespace Benchplane

open Library

/-! ## Places below the staging directory -/

namespace StagedFile

/-- The directory of a payload, below the root of the bundle. -/
def parent (file : StagedFile) : List FileName :=
  if file.isAttempt then [attemptsName, firstAttemptName] else []

theorem below_eq (file : StagedFile) (last : FileName) :
    file.below last = file.parent ++ [last] := by
  cases file <;> rfl

theorem parent_starts (file : StagedFile) : file.parent <+: [attemptsName, firstAttemptName] := by
  cases file <;> decide

theorem below_temporary_not_ancestor (file : StagedFile) :
    ¬ file.below file.temporaryName <+: [attemptsName, firstAttemptName] := by
  cases file <;> decide

end StagedFile

theorem Layout.path_eq (layout : Layout) (file : StagedFile) :
    layout.path file = (layout.staging ++ file.parent) ++ [file.name] := by
  rw [Layout.path, file.below_eq, List.append_assoc]

theorem Layout.temporary_eq (layout : Layout) (file : StagedFile) :
    layout.temporary file = (layout.staging ++ file.parent) ++ [file.temporaryName] := by
  rw [Layout.temporary, file.below_eq, List.append_assoc]

/-- A staging directory in the course of a run.  The temporary file of the pending payload
may be there; the present payloads are. -/
structure Tidy (layout : Layout) (pending : Option StagedFile) (present : List StagedFile)
    (disk : FileTree) : Prop where
  attempt : ∃ d, disk.lookup layout.attemptDirectory = some (.directory d)
  entries : ∀ below node, disk.lookup (layout.staging ++ below) = some node →
    (below <+: [attemptsName, firstAttemptName] ∧ ∃ d, node = .directory d) ∨
      (((∃ file : StagedFile, below = file.path) ∨
          ∃ file ∈ pending, below = file.below file.temporaryName) ∧
        ∃ content, node = .file content)
  present : ∀ file ∈ present, ∃ content,
    disk.lookup (layout.path file) = some (.file content)

section

variable {layout : Layout} {pending : Option StagedFile} {present : List StagedFile}
  {disk tree : FileTree} {file : StagedFile}

theorem Tidy.exists_parent (h : Tidy layout pending present disk) (file : StagedFile) :
    ∃ d, disk.lookup (layout.staging ++ file.parent) = some (.directory d) := by
  obtain ⟨d, hd⟩ := h.attempt
  unfold StagedFile.parent
  split
  · exact ⟨d, hd⟩
  · rw [List.append_nil]
    exact FileTree.exists_directory_of_lookup hd

/-- At the place of a payload there is at most a file. -/
theorem Tidy.payload (h : Tidy layout pending present disk) (file : StagedFile) :
    disk.lookup (layout.path file) = none ∨
      ∃ content, disk.lookup (layout.path file) = some (.file content) := by
  cases hlookup : disk.lookup (layout.path file) with
  | none => exact Or.inl rfl
  | some node =>
      rcases h.entries _ node hlookup with ⟨hancestor, -⟩ | ⟨-, content, rfl⟩
      · exact absurd hancestor file.below_not_ancestor
      · exact Or.inr ⟨content, rfl⟩

/-- Without a pending payload there is no temporary file. -/
theorem Tidy.no_temporary (h : Tidy layout none present disk) (file : StagedFile) :
    disk.lookup (layout.temporary file) = none := by
  cases hlookup : disk.lookup (layout.temporary file) with
  | none => rfl
  | some node =>
      rcases h.entries _ node hlookup with ⟨hancestor, -⟩ | ⟨⟨other, hother⟩ | hpending, -⟩
      · exact absurd hancestor file.below_temporary_not_ancestor
      · exact absurd hother (StagedFile.below_temporary_apart file other).ne
      · obtain ⟨other, hother, -⟩ := hpending
        contradiction

/-- A payload that is there stays where nothing but its own change reaches it. -/
theorem Tidy.present_of_same (h : Tidy layout pending present disk) {paths : List (List FileName)}
    (hsame : SameApartFrom paths disk tree)
    (hpaths : ∀ other ∈ present, other ≠ file → ∀ path ∈ paths, Apart path (layout.path other))
    (hfile : ∃ content, tree.lookup (layout.path file) = some (.file content)) :
    ∀ other ∈ file :: present, ∃ content, tree.lookup (layout.path other) = some (.file content) := by
  intro other hother
  by_cases hself : other = file
  · exact hself ▸ hfile
  · rcases List.mem_cons.mp hother with heq | hmem
    · exact absurd heq hself
    · rw [hsame _ (hpaths other hmem hself)]
      exact h.present other hmem

/-- A change of one payload and its temporary file leaves the rest tidy. -/
theorem Tidy.changed (h : Tidy layout pending present disk) {pending' : Option StagedFile}
    {present' : List StagedFile} {names : List FileName}
    (hsame : SameApartFrom (names.map fun name => layout.staging ++ file.below name) disk tree)
    (hnames : ∀ name ∈ names, name = file.name ∨ name = file.temporaryName)
    (hparent : ∃ d, tree.lookup (layout.staging ++ file.parent) = some (.directory d))
    (hwritten : ∀ name ∈ names, ∀ node,
      tree.lookup (layout.staging ++ file.below name) = some node →
        (name = file.name ∨ name = file.temporaryName ∧ pending' = some file) ∧
          ∃ content, node = .file content)
    (hpending : ∀ other ∈ pending,
      other ∈ pending' ∨ other = file ∧ file.temporaryName ∈ names)
    (hpresent : ∀ other ∈ present', ∃ content,
      tree.lookup (layout.path other) = some (.file content)) :
    Tidy layout pending' present' tree := by
  -- neither name is on the way to the attempt's directory
  have hancestor : ∀ name ∈ names, ¬ file.below name <+: [attemptsName, firstAttemptName] := by
    intro name hname
    rcases hnames name hname with rfl | rfl
    · exact file.below_not_ancestor
    · exact file.below_temporary_not_ancestor
  have hattempt : ∃ d, tree.lookup layout.attemptDirectory = some (.directory d) := by
    by_cases hfile : file.isAttempt = true
    · rw [StagedFile.parent, if_pos hfile] at hparent
      exact hparent
    · obtain ⟨d, hd⟩ := h.attempt
      refine ⟨d, (hsame _ ?_).trans hd⟩
      intro path hpath
      obtain ⟨name, hname, rfl⟩ := List.mem_map.mp hpath
      apply apart_append
      refine ⟨hancestor name hname, fun hprefix => ?_⟩
      have hlength := hprefix.length_le
      rw [StagedFile.below, if_neg hfile] at hlength
      simp at hlength
  -- the changed entries
  have hchanged : ∀ name ∈ names, ∀ node,
      tree.lookup (layout.staging ++ file.below name) = some node →
      ((∃ other : StagedFile, file.below name = other.path) ∨
        ∃ other ∈ pending', file.below name = other.below other.temporaryName) ∧
      ∃ content, node = .file content := by
    intro name hname node hnode
    obtain ⟨hplace, hcontent⟩ := hwritten name hname node hnode
    refine ⟨?_, hcontent⟩
    rcases hplace with rfl | ⟨rfl, hkept⟩
    · exact Or.inl ⟨file, rfl⟩
    · exact Or.inr ⟨file, hkept, rfl⟩
  refine ⟨hattempt, ?_, hpresent⟩
  intro below node hnode
  by_cases hapart : ∀ name ∈ names, Apart (file.below name) below
  · -- the entry is one of before
    have hbefore : disk.lookup (layout.staging ++ below) = some node := by
      rw [← hsame _ ?_]
      · exact hnode
      · intro path hpath
        obtain ⟨name, hname, rfl⟩ := List.mem_map.mp hpath
        exact apart_append (hapart name hname)
    rcases h.entries below node hbefore with hdirectory | ⟨hplace, hcontent⟩
    · exact Or.inl hdirectory
    · refine Or.inr ⟨?_, hcontent⟩
      rcases hplace with hpath | ⟨other, hother, htemporary⟩
      · exact Or.inl hpath
      · rcases hpending other hother with hkept | ⟨rfl, hmem⟩
        · exact Or.inr ⟨other, hkept, htemporary⟩
        · rw [htemporary] at hapart
          exact absurd List.prefix_rfl (hapart _ hmem).1
  · simp only [Apart, not_forall, not_and_or, not_not] at hapart
    obtain ⟨name, hname, hmeets⟩ := hapart
    rcases hmeets with hbehind | hbefore
    · obtain ⟨rest, rfl⟩ := hbehind
      cases rest with
      | nil =>
          rw [List.append_nil] at hnode ⊢
          exact Or.inr (hchanged name hname node hnode)
      | cons first rest =>
          -- below a file there is nothing
          rw [← List.append_assoc] at hnode
          obtain ⟨d, hd⟩ := FileTree.exists_directory_of_lookup hnode
          obtain ⟨-, content, hcontent⟩ := hwritten name hname _ hd
          contradiction
    · by_cases hself : below = file.below name
      · subst hself
        exact Or.inr (hchanged name hname node hnode)
      · -- the entry is a directory on the way
        have hshort : below <+: file.parent := by
          rw [file.below_eq] at hbefore hself
          rcases List.prefix_concat_iff.mp hbefore with heq | hprefix
          · exact absurd heq hself
          · exact hprefix
        have hway := hshort.trans file.parent_starts
        refine Or.inl ⟨hway, ?_⟩
        obtain ⟨d, hd⟩ := hattempt
        obtain ⟨rest, hrest⟩ := hway
        rw [Layout.attemptDirectory, ← hrest, ← List.append_assoc] at hd
        cases rest with
        | nil =>
            rw [List.append_nil, hnode] at hd
            exact ⟨d, Option.some.inj hd⟩
        | cons first rest =>
            obtain ⟨sub, hsub⟩ := FileTree.exists_directory_of_lookup hd
            rw [hnode] at hsub
            exact ⟨sub, Option.some.inj hsub⟩

/-! ## One operation -/

theorem exists_directory_of_file {path : List FileName} {last : FileName} {content : Bytes}
    (h : tree.lookup (path ++ [last]) = some (.file content)) :
    ∃ d, tree.lookup path = some (.directory d) :=
  FileTree.exists_directory_of_lookup h

/-- Writing a payload in place. -/
theorem Tidy.written (h : Tidy layout pending present disk) {content : Bytes}
    (hsame : SameApartFrom [layout.path file] disk tree)
    (hfile : tree.lookup (layout.path file) = some (.file content)) :
    Tidy layout pending (file :: present) tree := by
  apply @Tidy.changed layout pending present disk tree file h pending (file :: present) [file.name]
  · exact hsame
  · simp
  · rw [layout.path_eq] at hfile
    exact exists_directory_of_file hfile
  · intro name hname node hnode
    obtain rfl := List.mem_singleton.mp hname
    refine ⟨Or.inl rfl, content, ?_⟩
    exact Option.some.inj (hnode.symm.trans hfile)
  · intro other hother
    exact Or.inl hother
  · apply h.present_of_same hsame ?_ ⟨content, hfile⟩
    intro other _ hother path hpath
    rw [List.mem_singleton.mp hpath]
    exact layout.path_apart (Ne.symm hother)

/-- Writing the temporary file of a payload. -/
theorem Tidy.drafted (h : Tidy layout pending present disk)
    (hpending : ∀ other ∈ pending, other = file) {content : Bytes}
    (hsame : SameApartFrom [layout.temporary file] disk tree)
    (hfile : tree.lookup (layout.temporary file) = some (.file content)) :
    Tidy layout (some file) present tree := by
  apply @Tidy.changed layout pending present disk tree file h (some file) present
    [file.temporaryName]
  · exact hsame
  · simp
  · rw [layout.temporary_eq] at hfile
    exact exists_directory_of_file hfile
  · intro name hname node hnode
    obtain rfl := List.mem_singleton.mp hname
    refine ⟨Or.inr ⟨rfl, rfl⟩, content, ?_⟩
    exact Option.some.inj (hnode.symm.trans hfile)
  · intro other hother
    exact Or.inl (hpending other hother ▸ rfl)
  · intro other hother
    rw [hsame]
    · exact h.present other hother
    · intro path hpath
      rw [List.mem_singleton.mp hpath]
      exact layout.temporary_apart file other

/-- Renaming the temporary file of a payload to the payload. -/
theorem Tidy.placed (h : Tidy layout (some file) present disk) {content : Bytes}
    (hsame : SameApartFrom [layout.temporary file, layout.path file] disk tree)
    (hgone : tree.lookup (layout.temporary file) = none)
    (hfile : tree.lookup (layout.path file) = some (.file content)) :
    Tidy layout none (file :: present) tree := by
  apply @Tidy.changed layout (some file) present disk tree file h none (file :: present)
    [file.temporaryName, file.name]
  · exact hsame
  · simp
  · rw [layout.path_eq] at hfile
    exact exists_directory_of_file hfile
  -- the temporary file is gone, the record is in its place
  · intro name hname node hnode
    simp only [List.mem_cons, List.not_mem_nil, or_false] at hname
    rcases hname with rfl | rfl
    · rw [show tree.lookup (layout.staging ++ file.below file.temporaryName) = none from hgone]
        at hnode
      contradiction
    · refine ⟨Or.inl rfl, content, ?_⟩
      exact Option.some.inj (hnode.symm.trans hfile)
  · intro other hother
    exact Or.inr ⟨(Option.some.inj hother).symm, by simp⟩
  · apply h.present_of_same hsame ?_ ⟨content, hfile⟩
    intro other _ hother path hpath
    simp only [List.mem_cons, List.not_mem_nil, or_false] at hpath
    rcases hpath with rfl | rfl
    · exact layout.temporary_apart file other
    · exact layout.path_apart (Ne.symm hother)

theorem Tidy.mono (h : Tidy layout pending present disk) {present' : List StagedFile}
    (hpresent : present' ⊆ present) : Tidy layout pending present' disk :=
  ⟨h.attempt, h.entries, fun file hfile => h.present file (hpresent hfile)⟩

end

/-! ## Writing -/

section

variable {ρ : Type} {layout : Layout} {present : List StagedFile} {file : StagedFile}
  {formatFloat : FormatFloat} {failed : RunError → DiskWorld → ρ → Prop}

/-- `File::create` on a payload. -/
theorem succeeds_createPayload {label : Operation} {failure : IoError → RunError} :
    Triple noFaults (fun w _ => Tidy layout none present w.store)
      (Disk.performAs label (.createFile (layout.path file)) failure :
        DiskProgram ρ RunError Unit)
      (fun _ w _ => Tidy layout none (file :: present) w.store) failed := by
  apply Disk.succeeds_performAs
  intro w v h
  obtain ⟨d, hd⟩ := h.exists_parent file
  have hpayload := h.payload file
  obtain ⟨tree, happly⟩ : ∃ tree,
      (FileOperation.createFile (layout.path file)).apply w.store = .ok tree := by
    rw [layout.path_eq] at hpayload ⊢
    exact FileTree.exists_createFile hd hpayload
  exact ⟨tree, happly,
    h.written (sameApartFrom_apply happly) (FileTree.lookup_createFile_self happly)⟩

/-- Appending to a payload that is there. -/
theorem succeeds_appendPayload {label : Operation} {failure : IoError → RunError} {bytes : Bytes}
    (hfile : file ∈ present) :
    Triple noFaults (fun w _ => Tidy layout none present w.store)
      (Disk.performAs label (.append (layout.path file) bytes) failure :
        DiskProgram ρ RunError Unit)
      (fun _ w _ => Tidy layout none present w.store) failed := by
  apply Disk.succeeds_performAs
  intro w v h
  obtain ⟨content, hcontent⟩ := h.present file hfile
  have hne : layout.path file ≠ [] := by
    rw [layout.path_eq]
    simp
  obtain ⟨tree, happly⟩ := FileTree.exists_append hne hcontent
  obtain ⟨old, -, hafter⟩ := FileTree.lookup_append_self happly
  exact ⟨tree, happly, (h.written (sameApartFrom_apply happly) hafter).mono (by simp)⟩

/-- `write_json_atomic` on a payload. -/
theorem succeeds_writePayload {record : Record} :
    Triple noFaults (fun w _ => Tidy layout none present w.store)
      (writePayload formatFloat layout file record : DiskProgram ρ RunError Unit)
      (fun _ w _ => Tidy layout none (file :: present) w.store) failed := by
  unfold writePayload writeJsonAtomic writeBytes
  have hne : layout.temporary file ≠ [] := by
    rw [layout.temporary_eq]
    simp
  have hapart := layout.temporary_apart file file
  apply Triple.via (fun _ w _ => Tidy layout (some file) present w.store ∧
    ∃ content, w.store.lookup (layout.temporary file) = some (.file content))
  · apply Triple.via (fun _ w _ => Tidy layout (some file) present w.store ∧
      ∃ content, w.store.lookup (layout.temporary file) = some (.file content))
    · apply Disk.succeeds_performAs
      intro w v h
      obtain ⟨d, hd⟩ := h.exists_parent file
      have hfree := h.no_temporary file
      obtain ⟨tree, happly⟩ : ∃ tree,
          (FileOperation.createFile (layout.temporary file)).apply w.store = .ok tree := by
        rw [layout.temporary_eq] at hfree ⊢
        exact FileTree.exists_createFile hd (Or.inl hfree)
      have hafter := FileTree.lookup_createFile_self happly
      refine ⟨tree, happly, ?_, [], hafter⟩
      exact h.drafted (by simp) (sameApartFrom_apply happly) hafter
    · intro _
      apply Disk.succeeds_performAs
      rintro w v ⟨h, content, hcontent⟩
      obtain ⟨tree, happly⟩ := FileTree.exists_append hne hcontent
      obtain ⟨old, -, hafter⟩ := FileTree.lookup_append_self happly
      refine ⟨tree, happly, ?_, _, hafter⟩
      exact h.drafted (fun other hother => (Option.some.inj hother).symm)
        (sameApartFrom_apply happly) hafter
  · intro _
    apply Disk.succeeds_performAs
    rintro w v ⟨h, content, hcontent⟩
    obtain ⟨d, hd⟩ := h.exists_parent file
    have hpayload := h.payload file
    obtain ⟨tree, happly⟩ : ∃ tree, (FileOperation.rename (layout.temporary file)
        (layout.path file)).apply w.store = .ok tree := by
      -- the record replaces an older one or none, never a directory
      obtain ⟨new, hnew⟩ : ∃ new, Change.replaceBy (.file content)
          (w.store.lookup (layout.path file)) = .ok new := by
        rcases hpayload with hnone | ⟨old, hold⟩
        · exact ⟨_, by rw [hnone]; rfl⟩
        · exact ⟨_, by rw [hold]; rfl⟩
      rw [layout.path_eq] at hnew hapart ⊢
      exact FileTree.exists_rename hcontent hapart.1 hapart.2 hd hnew
    obtain ⟨hmoved, hgone⟩ := FileTree.lookup_rename happly hapart.ne hapart.2
    exact ⟨tree, happly, h.placed (sameApartFrom_apply happly) hgone (hmoved.trans hcontent)⟩

/-- `append_json_line` on a payload that is there. -/
theorem succeeds_appendJsonLine {record : Record} (hfile : file ∈ present) :
    Triple noFaults (fun w _ => Tidy layout none present w.store)
      (appendJsonLine formatFloat (layout.path file) record : DiskProgram ρ RunError Unit)
      (fun _ w _ => Tidy layout none present w.store) failed :=
  succeeds_appendPayload hfile

end

end Benchplane
