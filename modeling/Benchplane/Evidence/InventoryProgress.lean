import Benchplane.Evidence.InventoryRoundTrip
import Benchplane.WorkingDisk

/-!
# The inventory on a working disk

On a disk where no operation fails by itself, `write_checksum_file` goes through for every
directory of regular files and directories with writable names that has neither of the two
checksum files yet.
-/

namespace Benchplane

open Library

/-! ## The walk -/

/-- A directory of which an inventory can be written. -/
structure Listable (d : Directory) : Prop where
  plain : d.Plain
  named : ∀ path ∈ d.paths, ∃ text, normalizedRelativePath (relativePath path) = .ok text
  entryCount : d.entryCount ≤ maxChecksumEntries
  sums : d.find? checksumFileName = none
  temporary : d.find? checksumTemporaryName = none

theorem exists_visitEntry {parent : List FileName} {name : FileName} {walk : Walk}
    (hnamed : ∃ text, normalizedRelativePath (relativePath (parent ++ [name])) = .ok text)
    (hcount : walk.entriesSeen + 1 ≤ maxChecksumEntries) :
    ∃ display, visitEntry parent name walk =
      .ok ({ walk with entriesSeen := walk.entriesSeen + 1 }, display) := by
  obtain ⟨text, htext⟩ := hnamed
  have hbound : ¬ walk.entriesSeen + 1 > maxChecksumEntries := by omega
  refine ⟨if text = "SHA256SUMS" then none else some text, ?_⟩
  simp only [visitEntry, htext, rejectIf, if_neg hbound, bind, Except.bind, pure, Except.pure]

/-- The walk goes through a tree of files and directories with writable names. -/
theorem exists_gatherDirectory {parent : List FileName} {d : Directory} {walk : Walk}
    (hplain : d.Plain)
    (hnamed : ∀ path ∈ d.paths,
      ∃ text, normalizedRelativePath (relativePath (parent ++ path)) = .ok text)
    (hcount : walk.entriesSeen + d.entryCount ≤ maxChecksumEntries) :
    ∃ walk', gatherDirectory parent d walk = .ok walk' := by
  induction d using Directory.treeInduction generalizing parent walk with
  | empty => exact ⟨walk, rfl⟩
  | file name content rest ih =>
      rw [Directory.entryCount] at hcount
      simp only [Directory.paths, List.forall_mem_cons] at hnamed
      obtain ⟨display, hvisit⟩ := @exists_visitEntry parent name walk hnamed.1 (by omega)
      have hrest : ∀ payloads, ∃ walk', gatherDirectory parent rest
          ⟨payloads, walk.entriesSeen + 1⟩ = .ok walk' := fun payloads =>
        ih hplain hnamed.2 (by dsimp only; omega)
      simp only [gatherDirectory, hvisit, bind, Except.bind]
      cases display with
      | none => exact hrest _
      | some text => exact hrest _
  | directory name children rest ihChildren ihRest =>
      rw [Directory.entryCount] at hcount
      simp only [Directory.paths, List.forall_mem_cons, List.forall_mem_append,
        List.forall_mem_map] at hnamed
      obtain ⟨hname, hchildren, hrest⟩ := hnamed
      obtain ⟨display, hvisit⟩ := @exists_visitEntry parent name walk hname (by omega)
      simp only [gatherDirectory, hvisit, bind, Except.bind]
      cases display with
      | none => exact ihRest hplain.2 hrest (by dsimp only; omega)
      | some text =>
          obtain ⟨inner, hinner⟩ := @ihChildren (parent ++ [name])
            { walk with entriesSeen := walk.entriesSeen + 1 } hplain.1
            (fun path hpath => by simpa using hchildren path hpath) (by dsimp only; omega)
          -- the walk has counted the children
          have hcounted := (gatherDirectory_counts hinner).count
          rw [walked_append_singleton, skippedCount_append_singleton] at hcounted
          simp only [hinner]
          exact ihRest hplain.2 hrest (by rw [hcounted]; dsimp only; omega)
  | symlink name resolves rest ih => exact hplain.elim
  | special name rest ih => exact hplain.elim

/-! ## The writer -/

section

variable {path : List FileName} {d : Directory} {hash : Bytes → Digest} {ε : Type}

/-- The directory has its temporary checksum file. -/
def HasTemporary (path : List FileName) (d : Directory) (w : DiskWorld) : Prop :=
  ∃ content, w.store.lookup path =
    some (.directory (d.put checksumTemporaryName (.file content)))

theorem HasTemporary.exists_append {w : DiskWorld} (h : HasTemporary path d w) (bytes : Bytes)
    (label : Operation) :
    ∃ tree, (FileOperation.append (path ++ [checksumTemporaryName]) bytes).apply w.store =
        .ok tree ∧
      HasTemporary path d { w with store := tree, history := ⟨label, true, tree⟩ :: w.history } := by
  obtain ⟨content, hcontent⟩ := h
  have hfile : w.store.lookup (path ++ [checksumTemporaryName]) = some (.file content) := by
    rw [FileTree.lookup_append, hcontent]
    exact (Directory.lookup_singleton _ _).trans (Directory.find?_put_self _ _ _)
  obtain ⟨tree, happly⟩ := FileTree.exists_append (by simp) hfile
  exact ⟨tree, happly, content ++ bytes, lookup_append_temporary hcontent happly⟩

namespace ChecksumWriter

theorem succeeds_flush {failed : EvidenceError → DiskWorld → ChecksumWriter → Prop} :
    Triple noFaults (fun w _ => HasTemporary path d w) (flush (path ++ [checksumTemporaryName]))
      (fun _ w _ => HasTemporary path d w) failed := by
  unfold flush
  refine Triple.via (fun _ w _ => HasTemporary path d w) (fun _ _ h => h) fun writer => ?_
  split
  · exact fun _ _ h => h
  · refine Triple.via (fun _ w _ => HasTemporary path d w) ?_ fun _ =>
      Triple.modify fun _ _ h => h
    exact Disk.succeeds_performAs fun w v h => h.exists_append _ _

theorem succeeds_writeAll {failed : EvidenceError → DiskWorld → ChecksumWriter → Prop}
    {bytes : Bytes} :
    Triple noFaults (fun w _ => HasTemporary path d w)
      (writeAll (path ++ [checksumTemporaryName]) bytes)
      (fun _ w _ => HasTemporary path d w) failed := by
  unfold writeAll
  refine Triple.via (fun _ w _ => HasTemporary path d w) (fun _ _ h => h) fun writer => ?_
  refine Triple.via (fun _ w _ => HasTemporary path d w)
    (Triple.when (fun _ => succeeds_flush) fun _ _ _ h => h) fun _ => ?_
  unfold place
  split
  · exact Disk.succeeds_performAs fun w v h => h.exists_append _ _
  · exact Triple.modify fun _ _ h => h

end ChecksumWriter

/-- A payload of the directory is hashed. -/
theorem succeeds_hashPayload {failed : EvidenceError → DiskWorld → ChecksumWriter → Prop}
    (htemporary : d.find? checksumTemporaryName = none) {payload : String × Bytes}
    {names : List FileName} {content : Bytes} (hentry : entryNames payload.2 = some names)
    (hpayload : d.lookup names = some (.file content)) :
    Triple noFaults (fun w _ => HasTemporary path d w)
      (hashPayload hash path payload.2 payload.1)
      (fun _ w _ => HasTemporary path d w) failed := by
  apply Disk.succeeds_read
  rintro w v ⟨written, hwritten⟩
  obtain ⟨root, hroot, htree⟩ := exists_canonicalBundleRoot hwritten
  -- the payload is not the temporary file
  have hfile : root.tree.lookup names = some (.file content) := by
    rw [htree]
    cases names with
    | nil => simp at hpayload
    | cons name rest =>
        have hname : name ≠ checksumTemporaryName := by
          rintro rfl
          rw [Directory.lookup_cons, htemporary] at hpayload
          contradiction
        rw [Directory.lookup_put_ne hname]
        exact hpayload
  have hhash : hashRegularFile hash root payload.2 payload.1 none =
      .ok (names, (hash content).hex, none) :=
    hashRegularFile_eq_ok.mpr ⟨hentry, content, hfile, rfl, rfl, rfl⟩
  refine ⟨(hash content).hex, ?_, written, hwritten⟩
  simp only [hroot, hhash, bind, Except.bind, pure, Except.pure]

/-- The loop over the payloads goes through. -/
theorem succeeds_writeChecksums {failed : EvidenceError → DiskWorld → ChecksumWriter → Prop}
    (htemporary : d.find? checksumTemporaryName = none) {payloads : SortedMap String Bytes}
    (hpayloads : ∀ payload ∈ payloads.entries, ∃ names content,
      entryNames payload.2 = some names ∧ d.lookup names = some (.file content)) :
    Triple noFaults (fun w _ => HasTemporary path d w)
      (writeChecksums hash path (path ++ [checksumTemporaryName]) payloads)
      (fun _ w _ => HasTemporary path d w) failed := by
  unfold writeChecksums
  apply Triple.unfailing
  refine Triple.via (fun _ w _ => HasTemporary path d w) ?_ fun _ => ?_
  · refine Triple.forEach (fun _ _ w _ => HasTemporary path d w)
      fun done payload rest hitems => ?_
    obtain ⟨names, content, hentry, hpayload⟩ := hpayloads payload (by rw [hitems]; simp)
    unfold writeChecksum
    refine Triple.via (fun _ w _ => HasTemporary path d w)
      (succeeds_hashPayload htemporary hentry hpayload) fun digest => ?_
    exact Triple.via (fun _ w _ => HasTemporary path d w) ChecksumWriter.succeeds_writeAll
      fun _ => Triple.modify fun _ _ h => h
  · refine Triple.via (fun _ w _ => HasTemporary path d w) ChecksumWriter.succeeds_flush
      fun _ => ?_
    exact fun _ _ h => h

/-- What the walk has found are files of the directory. -/
theorem payloads_of_gatherDirectory {walk : Walk} (hd : d.Distinct)
    (h : gatherDirectory [] d ⟨.empty, 0⟩ = .ok walk) {payload : String × Bytes}
    (hmem : payload ∈ walk.payloads.entries) : ∃ names content,
      entryNames payload.2 = some names ∧ d.lookup names = some (.file content) := by
  have hfinds := gatherDirectory_finds h
  have hkeyed := hfinds.keyed (by simp [SortedMap.empty]) payload hmem
  have hkey : payload.1 ∈ walk.payloads.keys := List.mem_map_of_mem hmem
  rcases (hfinds.keys payload.1).mp hkey with hnone | ⟨⟨names, content⟩, hfile, hpath⟩
  · simp [SortedMap.empty, SortedMap.keys] at hnone
  · rw [List.nil_append] at hpath
    have hnil : names ≠ [] := Directory.ne_nil_of_mem_files hfile
    refine ⟨names, content, ?_, ?_⟩
    · rw [hkeyed, hpath, entryNames_relativePath hnil]
    · rw [walked, if_pos rfl] at hfile
      have hlookup := (Directory.mem_files_iff (hd.erase _)).mp hfile
      obtain ⟨name, rest, rfl⟩ := List.exists_cons_of_ne_nil hnil
      by_cases hname : name = checksumFileName
      · rw [hname, Directory.lookup_erase_self] at hlookup
        contradiction
      · rwa [Directory.lookup_erase_ne hname] at hlookup

/-- `write_checksum_file` goes through on a directory that can be listed. -/
theorem succeeds_writeChecksumFile {ρ : Type} {failed : EvidenceError → DiskWorld → ρ → Prop}
    (hd : d.Distinct) (hlistable : Listable d) :
    Triple noFaults (fun w (_ : ρ) => w.store.lookup path = some (.directory d))
      (writeChecksumFile hash path) (fun _ _ _ => True) failed := by
  obtain ⟨walk, hwalk⟩ := @exists_gatherDirectory [] d ⟨.empty, 0⟩ hlistable.plain
    hlistable.named (by simpa using hlistable.entryCount)
  have hne : checksumFileName ≠ checksumTemporaryName := by decide
  unfold writeChecksumFile
  apply Triple.via (fun finalized w _ =>
    finalized = false ∧ w.store.lookup path = some (.directory d))
  · apply Disk.succeeds_pathExists
    intro w v h
    refine ⟨?_, h⟩
    have hnone : w.store.lookup (path ++ [checksumFileName]) = none := by
      rw [FileTree.lookup_append, h]
      exact (Directory.lookup_singleton _ _).trans hlistable.sums
    rw [FileTree.exists, hnone]
  intro finalized
  apply Triple.via (fun _ w _ => w.store.lookup path = some (.directory d))
  · rintro w v ⟨rfl, h⟩
    exact h
  intro _
  apply Triple.via (fun payloads w _ =>
    payloads = walk.payloads ∧ w.store.lookup path = some (.directory d))
  · apply Disk.succeeds_read
    intro w v h
    -- the walk goes through a directory that can be listed
    obtain ⟨root, hroot, htree⟩ := exists_canonicalBundleRoot h
    refine ⟨walk.payloads, ?_, rfl, h⟩
    simp only [hroot, gatherPayloadPaths, htree, hwalk, bind, Except.bind, pure, Except.pure]
  intro payloads
  apply Triple.via (fun _ w _ => payloads = walk.payloads ∧ HasTemporary path d w)
  · apply Disk.succeeds_performAs
    rintro w v ⟨hpayloads, h⟩
    -- the temporary file can be created
    have hfree : w.store.lookup (path ++ [checksumTemporaryName]) = none := by
      rw [FileTree.lookup_append, h]
      exact (Directory.lookup_singleton _ _).trans hlistable.temporary
    obtain ⟨tree, happly⟩ := FileTree.exists_createFile h (Or.inl hfree)
    exact ⟨tree, happly, hpayloads, [], (FileTree.createFile_entry h happly).1⟩
  intro _
  apply Triple.via (fun _ w _ => HasTemporary path d w)
  · apply Triple.withLocals
    rintro v w own ⟨rfl, hpayloads, h⟩
    subst hpayloads
    exact succeeds_writeChecksums hlistable.temporary
      (fun payload hmem => payloads_of_gatherDirectory hd hwalk hmem) w ⟨[], []⟩ h
  intro pending
  apply Triple.via (fun _ _ _ => True)
  · apply Disk.succeeds_performAs
    rintro w v ⟨content, h⟩
    -- and renamed, since nothing is in its way
    have hsource : w.store.lookup (path ++ [checksumTemporaryName]) = some (.file content) := by
      rw [FileTree.lookup_append, h]
      exact (Directory.lookup_singleton _ _).trans (Directory.find?_put_self _ _ _)
    have htarget : w.store.lookup (path ++ [checksumFileName]) = none := by
      rw [FileTree.lookup_append, h]
      refine (Directory.lookup_singleton _ _).trans ?_
      rw [Directory.find?_put_ne hne]
      exact hlistable.sums
    have hleft : ¬ path ++ [checksumTemporaryName] <+: path ++ [checksumFileName] := by
      simp [hne.symm]
    have hright : ¬ path ++ [checksumFileName] <+: path ++ [checksumTemporaryName] := by
      simp [hne]
    obtain ⟨tree, happly⟩ := FileTree.exists_rename hsource hleft hright h
      (by rw [htarget]; rfl)
    exact ⟨tree, happly, trivial⟩
  · intro _ w v _
    trivial

end

end Benchplane
