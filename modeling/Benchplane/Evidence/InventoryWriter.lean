import Benchplane.Evidence.InventorySoundness

/-!
# What writing the inventory leaves behind

A run of `write_checksum_file` that goes through has replaced `SHA256SUMS` by the
concatenation of one line for each payload of the walk, which is also what the
pending digest has absorbed, and has changed nothing else in the directory but
its own temporary file.
-/

namespace Benchplane

open Library

variable {faults : Faults} {path : List FileName} {d : Directory}

/-- The temporary file and the buffer together hold `total`. -/
def Buffered (path : List FileName) (d : Directory) (total : Bytes) (w : DiskWorld)
    (v : ChecksumWriter) : Prop :=
  ∃ written,
    w.store.lookup path = some (.directory (d.put checksumTemporaryName (.file written))) ∧
      written ++ v.buffer = total

theorem lookup_append_temporary {written bytes : Bytes} {disk tree : FileTree}
    (hlookup : disk.lookup path =
      some (.directory (d.put checksumTemporaryName (.file written))))
    (happly : (FileOperation.append (path ++ [checksumTemporaryName]) bytes).apply disk =
      .ok tree) :
    tree.lookup path =
      some (.directory (d.put checksumTemporaryName (.file (written ++ bytes)))) := by
  obtain ⟨content, hcontent, hafter⟩ := FileTree.append_entry hlookup happly
  rw [Directory.find?_put_self] at hcontent
  obtain rfl : written = content := by simpa using hcontent
  rw [hafter, Directory.put_put_self]

namespace ChecksumWriter

/-- Flushing moves the whole buffer to the disk. -/
theorem triple_flush (total absorbed : Bytes) :
    Triple faults (fun w v => Buffered path d total w v ∧ v.absorbed = absorbed)
      (flush (path ++ [checksumTemporaryName]))
      (fun _ w v => Buffered path d total w v ∧ v.absorbed = absorbed ∧ v.buffer = [])
      (fun _ _ _ => True) := by
  unfold flush
  refine Triple.andThen Triple.getValue fun writer => ?_
  split
  · rename_i hempty
    rintro w v ⟨rfl, hbuffered, habsorbed⟩
    exact ⟨hbuffered, habsorbed, hempty⟩
  · refine Triple.via (fun _ w v => v.absorbed = absorbed ∧
        w.store.lookup path = some (.directory (d.put checksumTemporaryName (.file total))))
      (Disk.triple_performAs ?_ fun _ _ _ _ => trivial) fun _ => ?_
    · rintro w v tree ⟨rfl, ⟨written, hlookup, htotal⟩, habsorbed⟩ happly
      exact ⟨habsorbed, htotal ▸ lookup_append_temporary hlookup happly⟩
    · exact Triple.modify fun w v ⟨habsorbed, hlookup⟩ =>
        ⟨⟨total, hlookup, by simp⟩, habsorbed, rfl⟩

/-- Placing bytes adds them behind the total; bytes past the buffer need it empty. -/
theorem triple_place (total absorbed bytes : Bytes) :
    Triple faults (fun w v => Buffered path d total w v ∧ v.absorbed = absorbed ∧
        (bytes.length ≥ bufferCapacity → v.buffer = []))
      (place (path ++ [checksumTemporaryName]) bytes)
      (fun _ w v => Buffered path d (total ++ bytes) w v ∧ v.absorbed = absorbed)
      (fun _ _ _ => True) := by
  unfold place
  split
  · rename_i hlarge
    refine Disk.triple_performAs ?_ fun _ _ _ _ => trivial
    rintro w v tree ⟨⟨written, hlookup, htotal⟩, habsorbed, hempty⟩ happly
    refine ⟨⟨written ++ bytes, lookup_append_temporary hlookup happly, ?_⟩, habsorbed⟩
    have hbuffer := hempty hlarge
    rw [hbuffer] at htotal ⊢
    rw [← htotal]
    simp
  · refine Triple.modify ?_
    rintro w v ⟨⟨written, hlookup, htotal⟩, habsorbed, -⟩
    exact ⟨⟨written, hlookup, by rw [← htotal, List.append_assoc]⟩, habsorbed⟩

/-- Writing adds the bytes behind what the file and the buffer hold. -/
theorem triple_writeAll (total absorbed bytes : Bytes) :
    Triple faults (fun w v => Buffered path d total w v ∧ v.absorbed = absorbed)
      (writeAll (path ++ [checksumTemporaryName]) bytes)
      (fun _ w v => Buffered path d (total ++ bytes) w v ∧ v.absorbed = absorbed)
      (fun _ _ _ => True) := by
  unfold writeAll
  refine Triple.andThen Triple.getValue fun writer => ?_
  refine Triple.andThen (Triple.when (fun _ => ?_) fun hroom w v h => ?_) fun _ =>
    triple_place total absorbed bytes
  · refine (triple_flush total absorbed).conseq (fun w v h => h.2) ?_ fun _ _ _ h => h
    rintro _ w v ⟨hbuffered, habsorbed, hempty⟩
    exact ⟨hbuffered, habsorbed, fun _ => hempty⟩
  · obtain ⟨rfl, hbuffered, habsorbed⟩ := h
    refine ⟨hbuffered, habsorbed, fun hlarge => ?_⟩
    -- without a flush the bytes fit beside the buffer, so the buffer holds nothing
    have hfits : v.buffer.length + bytes.length ≤ bufferCapacity := by simpa using hroom
    have hlength : v.buffer.length = 0 := by omega
    exact List.length_eq_zero_iff.mp hlength

end ChecksumWriter

theorem canonicalBundleRoot_eq_ok {disk : FileTree} {root : BundleRoot}
    (h : canonicalBundleRoot path disk = .ok root) :
    root.path = path ∧ disk.lookup path = some (.directory root.tree) := by
  unfold canonicalBundleRoot at h
  split at h
  · contradiction
  · rename_i tree htree
    obtain rfl := Except.ok.inj h
    exact ⟨rfl, htree⟩
  · contradiction
  · contradiction
  · contradiction

/-! ## What the writer leaves alone -/

section

variable {ρ : Type} {inv : DiskWorld → Prop}

theorem keeps_flush {temporary : List FileName} (hinv : Respects [temporary] inv) :
    Keeps faults (fun w _ => inv w) (ChecksumWriter.flush temporary) := by
  unfold ChecksumWriter.flush
  refine Keeps.andThen Keeps.get fun writer => ?_
  split
  · exact Keeps.ok ()
  · refine Keeps.andThen (Disk.keeps_change (fun _ => hinv) (by simp [FileOperation.scope]))
      fun _ => ?_
    exact Keeps.modify fun _ _ h => h

theorem keeps_writeAll {temporary : List FileName} (hinv : Respects [temporary] inv)
    {bytes : Bytes} :
    Keeps faults (fun w _ => inv w) (ChecksumWriter.writeAll temporary bytes) := by
  unfold ChecksumWriter.writeAll
  refine Keeps.andThen Keeps.get fun writer => ?_
  refine Keeps.andThen (Keeps.when (keeps_flush hinv)) fun _ => ?_
  unfold ChecksumWriter.place
  split
  · exact Disk.keeps_change (fun _ => hinv) (by simp [FileOperation.scope])
  · exact Keeps.modify fun _ _ h => h

theorem keeps_writeChecksums {hash : Bytes → Digest} {temporary : List FileName}
    {payloads : SortedMap String Bytes} (hinv : Respects [temporary] inv) :
    Keeps faults (fun w _ => inv w) (writeChecksums hash path temporary payloads) := by
  unfold writeChecksums
  refine Keeps.recover ?_ fun failure => ?_
  · refine Keeps.andThen (Keeps.forEach fun payload _ => ?_) fun _ => ?_
    · refine Keeps.andThen (Disk.keeps_read fun _ => hinv) fun digest => ?_
      refine Keeps.andThen (keeps_writeAll hinv) fun _ => ?_
      exact Keeps.modify fun _ _ h => h
    · refine Keeps.andThen (keeps_flush hinv) fun _ => ?_
      exact Keeps.andThen Keeps.get fun _ => Keeps.ok _
  · exact Keeps.andThen (Keeps.ignore (keeps_flush hinv)) fun _ => Keeps.fail failure

/-- An invariant that attempts on the two checksum files keep is kept by
`write_checksum_file`. -/
theorem keeps_writeChecksumFile {inv : DiskWorld → ρ → Prop} {hash : Bytes → Digest}
    (hinv : ∀ v, Respects [path ++ [checksumTemporaryName], path ++ [checksumFileName]]
      fun w => inv w v) :
    Keeps faults inv (writeChecksumFile hash path) := by
  have htemporary : ∀ v, Respects [path ++ [checksumTemporaryName]] fun w => inv w v :=
    fun v => (hinv v).mono (by simp)
  unfold writeChecksumFile
  refine Keeps.andThen (Disk.triple_pathExists hinv) fun finalized => ?_
  refine Keeps.andThen (Keeps.when (Keeps.fail _)) fun _ => ?_
  refine Keeps.andThen (Disk.keeps_read hinv) fun payloads => ?_
  refine Keeps.andThen (Disk.keeps_change hinv (by simp [FileOperation.scope])) fun _ => ?_
  refine Keeps.andThen (Triple.withLocals fun v => ?_) fun pending => ?_
  · exact (keeps_writeChecksums (htemporary v)).weaken fun w own h => h.2
  refine Keeps.andThen (Disk.keeps_change hinv (by simp [FileOperation.scope])) fun _ => ?_
  exact Keeps.ok pending

end

/-! ## What the writer writes -/

/-- The digest written for a payload is that of its bytes, unless the payload is
the temporary file itself, which the writer empties before it hashes. -/
def Digested (hash : Bytes → Digest) (d : Directory) (entry : (String × Bytes) × Digest) : Prop :=
  ∀ names, entryNames entry.1.2 = some names → names.head? ≠ some checksumTemporaryName →
    ∃ content, d.lookup names = some (.file content) ∧ entry.2 = hash content

/-- The line of a payload and its digest. -/
def inventoryLine (entry : (String × Bytes) × Digest) : Bytes :=
  utf8 (checksumLine entry.2.hex entry.1.1)

/-- A list of lines: one for each payload, in order. -/
def Lists (hash : Bytes → Digest) (d : Directory) (payloads : List (String × Bytes))
    (bytes : Bytes) : Prop :=
  ∃ entries : List ((String × Bytes) × Digest), entries.map Prod.fst = payloads ∧
    (∀ entry ∈ entries, Digested hash d entry) ∧ bytes = entries.flatMap inventoryLine

theorem Lists.nil {hash : Bytes → Digest} {d : Directory} : Lists hash d [] [] :=
  ⟨[], rfl, by simp, rfl⟩

theorem Lists.concat {hash : Bytes → Digest} {d : Directory} {payloads : List (String × Bytes)}
    {bytes : Bytes} (h : Lists hash d payloads bytes) {entry : (String × Bytes) × Digest}
    (hentry : Digested hash d entry) :
    Lists hash d (payloads ++ [entry.1]) (bytes ++ inventoryLine entry) := by
  obtain ⟨entries, rfl, hdigested, rfl⟩ := h
  refine ⟨entries ++ [entry], by simp, fun other hother => ?_, by simp⟩
  rcases List.mem_append.mp hother with hmem | hmem
  · exact hdigested other hmem
  · exact List.mem_singleton.mp hmem ▸ hentry

/-- The loop invariant: the lines of the payloads behind. -/
structure Writing (hash : Bytes → Digest) (path : List FileName) (d : Directory)
    (done : List (String × Bytes)) (w : DiskWorld) (v : ChecksumWriter) : Prop where
  buffered : Buffered path d v.absorbed w v
  lists : Lists hash d done v.absorbed

variable {hash : Bytes → Digest}

/-- Hashing looks through the temporary file at the directory as it was. -/
theorem triple_hashPayload {done : List (String × Bytes)} (payload : String × Bytes) :
    Triple faults (Writing hash path d done) (hashPayload hash path payload.2 payload.1)
      (fun digest w v => Writing hash path d done w v ∧
        ∃ value : Digest, digest = value.hex ∧ Digested hash d (payload, value))
      (fun _ _ _ => True) := by
  refine Disk.triple_read ?_ (fun _ _ _ _ => trivial) fun _ _ _ _ _ => trivial
  intro w v digest hwriting hlook
  simp only [bind_eq_ok_iff, pure_eq_ok_iff, Prod.exists] at hlook
  obtain ⟨root, hroot, target, digest', bytes, hhash, rfl⟩ := hlook
  obtain ⟨-, hlookup⟩ := canonicalBundleRoot_eq_ok hroot
  obtain ⟨hentry, content, hcontent, -, rfl, -⟩ := hashRegularFile_eq_ok.mp hhash
  obtain ⟨written, hwritten, -⟩ := hwriting.buffered
  have htree : root.tree = d.put checksumTemporaryName (.file written) := by
    have hboth := hlookup.symm.trans hwritten
    simpa using hboth
  refine ⟨⟨hwriting.buffered, hwriting.lists⟩, hash content, rfl, fun names hnames hhead => ?_⟩
  obtain rfl : target = names := Option.some.inj (hentry.symm.trans hnames)
  refine ⟨content, ?_, rfl⟩
  rw [htree] at hcontent
  cases target with
  | nil => simp at hcontent
  | cons name rest =>
      have hname : name ≠ checksumTemporaryName := by simpa using hhead
      rwa [Directory.lookup_put_ne hname] at hcontent

/-- One turn of the loop adds one line. -/
theorem triple_writeChecksum {done : List (String × Bytes)} (payload : String × Bytes) :
    Triple faults (Writing hash path d done)
      (writeChecksum hash path (path ++ [checksumTemporaryName]) payload)
      (fun _ => Writing hash path d (done ++ [payload])) (fun _ _ _ => True) := by
  refine Triple.andThen (triple_hashPayload payload) fun digest => ?_
  refine Triple.via (fun _ w v =>
      Buffered path d (v.absorbed ++ utf8 (checksumLine digest payload.1)) w v ∧
      Lists hash d (done ++ [payload]) (v.absorbed ++ utf8 (checksumLine digest payload.1))) ?_
    fun _ => ?_
  · rintro w v ⟨⟨hbuffered, hlists⟩, value, rfl, hdigested⟩
    refine (ChecksumWriter.triple_writeAll v.absorbed v.absorbed
      (utf8 (checksumLine value.hex payload.1)) w v ⟨hbuffered, rfl⟩).mono ?_ fun _ _ _ h => h
    rintro _ w' v' ⟨hafter, habsorbed⟩
    rw [habsorbed]
    exact ⟨hafter, hlists.concat hdigested⟩
  · exact Triple.modify fun w v ⟨⟨written, hlookup, htotal⟩, hlists⟩ =>
      ⟨⟨written, hlookup, htotal⟩, hlists⟩

/-- The directory after the temporary file has become `SHA256SUMS`. -/
def writtenTree (d : Directory) (sums : Bytes) : Directory :=
  ((d.put checksumTemporaryName (.file sums)).put checksumFileName (.file sums)).erase
    checksumTemporaryName

/-- What a finished `write_checksum_file` leaves in the directory. -/
structure WrittenInventory (hash : Bytes → Digest) (path : List FileName) (d : Directory)
    (pending : PendingEvidenceDigest) (disk : FileTree) : Prop where
  lists : ∃ walk, gatherDirectory [] d ⟨.empty, 0⟩ = .ok walk ∧
    Lists hash d walk.payloads.entries pending.absorbed
  fresh : ∀ sub, d.find? checksumTemporaryName ≠ some (.directory sub)
  placed : disk.lookup path = some (.directory (writtenTree d pending.absorbed))
  replaced : ∀ sub, d.find? checksumFileName ≠ some (.directory sub)

/-- The loop leaves the whole list in the temporary file. -/
theorem triple_writeChecksums {payloads : SortedMap String Bytes} :
    Triple faults (fun w v => v = ⟨[], []⟩ ∧
        w.store.lookup path = some (.directory (d.put checksumTemporaryName (.file []))))
      (writeChecksums hash path (path ++ [checksumTemporaryName]) payloads)
      (fun pending w _ =>
        w.store.lookup path =
          some (.directory (d.put checksumTemporaryName (.file pending.absorbed))) ∧
        Lists hash d payloads.entries pending.absorbed)
      (fun _ _ _ => True) := by
  unfold writeChecksums
  refine Triple.recoverAny ?_ fun failure => ?_
  · refine Triple.via (fun _ => Writing hash path d payloads.entries) ?_ fun _ => ?_
    · refine Triple.weaken (Triple.forEach (fun done _ => Writing hash path d done)
        fun done payload rest _ => triple_writeChecksum payload) ?_
      rintro w v ⟨rfl, hlookup⟩
      exact ⟨⟨[], hlookup, rfl⟩, Lists.nil⟩
    -- behind the flush the temporary file holds every line
    · refine Triple.via (fun _ w v =>
        w.store.lookup path =
          some (.directory (d.put checksumTemporaryName (.file v.absorbed))) ∧
        Lists hash d payloads.entries v.absorbed) ?_ fun _ => ?_
      · rintro w v ⟨hbuffered, hlists⟩
        refine (ChecksumWriter.triple_flush v.absorbed v.absorbed w v ⟨hbuffered, rfl⟩).mono ?_
          fun _ _ _ h => h
        rintro _ w' v' ⟨⟨written, hlookup, htotal⟩, hsame, hempty⟩
        rw [hempty, List.append_nil] at htotal
        rw [hsame, ← htotal]
        exact ⟨hlookup, htotal ▸ hlists⟩
      · intro w v h
        exact h
  · refine Triple.via (fun _ _ _ => True) (Triple.ignore ?_) fun _ w v _ => trivial
    exact keeps_flush ⟨fun _ _ _ _ _ _ _ _ => trivial, fun _ _ _ _ => trivial,
      fun _ _ _ => trivial, fun _ _ _ => trivial⟩

/-- `write_checksum_file` goes through only with the whole inventory in place. -/
theorem triple_writeChecksumFile {ρ : Type} :
    Triple faults (fun w (_ : ρ) => w.store.lookup path = some (.directory d))
      (writeChecksumFile hash path)
      (fun pending w _ => WrittenInventory hash path d pending w.store)
      (fun _ _ _ => True) := by
  unfold writeChecksumFile
  have hreads : Respects [] fun w => w.store.lookup path = some (.directory d) :=
    respects_nil fun disk => disk.lookup path = some (.directory d)
  -- nothing is written where an inventory is there already
  refine Triple.andThen (Disk.triple_pathExists fun _ => hreads) fun finalized => ?_
  refine Triple.via (fun _ w _ => w.store.lookup path = some (.directory d))
    (Triple.when (fun _ w v _ => trivial) fun _ _ _ h => h) fun _ => ?_
  -- the walk, the temporary file and its lines, one after the other
  refine Triple.via (fun payloads w _ => w.store.lookup path = some (.directory d) ∧
    ∃ walk, gatherDirectory [] d ⟨.empty, 0⟩ = .ok walk ∧ walk.payloads = payloads) ?_
    fun payloads => ?_
  · refine Disk.triple_read ?_ (fun _ _ _ _ => trivial) fun _ _ _ _ _ => trivial
    intro w v payloads hlookup hlook
    simp only [gatherPayloadPaths, bind_eq_ok_iff, pure_eq_ok_iff] at hlook
    obtain ⟨root, hroot, walk, hwalk, hpayloads⟩ := hlook
    obtain ⟨-, hfound⟩ := canonicalBundleRoot_eq_ok hroot
    have htree : root.tree = d := by
      have hboth := hfound.symm.trans hlookup
      simpa using hboth
    exact ⟨hlookup, walk, htree ▸ hwalk, hpayloads⟩
  refine Triple.via (fun _ w _ =>
    w.store.lookup path = some (.directory (d.put checksumTemporaryName (.file []))) ∧
    (∀ sub, d.find? checksumTemporaryName ≠ some (.directory sub)) ∧
    ∃ walk, gatherDirectory [] d ⟨.empty, 0⟩ = .ok walk ∧ walk.payloads = payloads) ?_ fun _ => ?_
  · refine Disk.triple_performAs ?_ fun _ _ _ _ => trivial
    rintro w v tree ⟨hlookup, hwalk⟩ happly
    obtain ⟨hcreated, hfresh⟩ := FileTree.createFile_entry hlookup happly
    exact ⟨hcreated, hfresh, hwalk⟩
  refine Triple.via (fun pending w _ =>
    w.store.lookup path =
      some (.directory (d.put checksumTemporaryName (.file pending.absorbed))) ∧
    (∀ sub, d.find? checksumTemporaryName ≠ some (.directory sub)) ∧
    ∃ walk, gatherDirectory [] d ⟨.empty, 0⟩ = .ok walk ∧
      Lists hash d walk.payloads.entries pending.absorbed) ?_ fun pending => ?_
  · refine Triple.withLocals fun _ => ?_
    rintro w v ⟨rfl, hlookup, hfresh, walk, hwalk, rfl⟩
    refine (triple_writeChecksums w ⟨[], []⟩ ⟨rfl, hlookup⟩).mono ?_ fun _ _ _ h => h
    exact fun pending w' _ h => ⟨h.1, hfresh, walk, hwalk, h.2⟩
  refine Triple.via (fun _ w _ => WrittenInventory hash path d pending w.store) ?_
    fun _ w v h => h
  refine Disk.triple_performAs ?_ fun _ _ _ _ => trivial
  rintro w v tree ⟨hlookup, hfresh, hlists⟩ happly
  have hne : checksumFileName ≠ checksumTemporaryName := by decide
  -- the rename puts the temporary file in place, where no directory can have been
  obtain ⟨node, hnode, hreplace, hafter⟩ := FileTree.rename_entry hne hlookup happly
  obtain rfl : Node.file pending.absorbed = node := by
    rw [Directory.find?_put_self] at hnode
    exact Option.some.inj hnode
  refine ⟨hlists, hfresh, hafter, fun sub hsub => ?_⟩
  rw [Directory.find?_put_ne hne, hsub] at hreplace
  simp [Change.replaceBy] at hreplace

/-- A `write_checksum_file` that fails has touched its temporary file at most: the rename is
its last step. -/
theorem triple_writeChecksumFile_refused {ρ : Type} {inv : DiskWorld → Prop}
    (hinv : Respects [path ++ [checksumTemporaryName]] inv)
    (hrefused : ∀ (w : DiskWorld) label, inv w →
      inv { w with history := ⟨label, false, w.store⟩ :: w.history }) :
    Triple faults (fun w (_ : ρ) => inv w) (writeChecksumFile hash path) (fun _ _ _ => True)
      (fun _ w _ => inv w) := by
  unfold writeChecksumFile
  refine Triple.andThen (Disk.triple_pathExists fun _ => hinv) fun finalized => ?_
  refine Triple.andThen (Keeps.when (Keeps.fail _)) fun _ => ?_
  refine Triple.andThen (Disk.keeps_read fun _ => hinv) fun payloads => ?_
  refine Triple.andThen (Disk.keeps_change (fun _ => hinv) (by simp [FileOperation.scope]))
    fun _ => ?_
  refine Triple.andThen (Triple.withLocals fun _ =>
    (keeps_writeChecksums hinv).weaken fun w own h => h.2) fun pending => ?_
  refine Triple.via (fun _ _ _ => True) ?_ fun _ _ _ _ => trivial
  apply Disk.triple_performAs
  · intro w v tree _ _
    trivial
  · intro w v error h
    exact hrefused w _ h

/-- A writer that gets to its end has put the inventory in place. -/
theorem triple_writeChecksumFile_placed {ρ : Type} :
    Triple faults (fun _ (_ : ρ) => True) (writeChecksumFile hash path)
      (fun _ w _ => ∃ attempt ∈ w.history, attempt.succeeded = true ∧ attempt.label =
        .change (.rename (path ++ [checksumTemporaryName]) (path ++ [checksumFileName])))
      (fun _ _ _ => True) := by
  have htrue : ∀ scope, Respects scope fun _ => True := fun _ => by constructor <;> simp
  unfold writeChecksumFile
  refine Triple.andThen (Disk.triple_pathExists fun _ => htrue []) fun finalized => ?_
  refine Triple.andThen (Keeps.when (Keeps.fail _)) fun _ => ?_
  refine Triple.andThen (Disk.keeps_read fun _ => htrue []) fun payloads => ?_
  refine Triple.andThen (Disk.keeps_change (fun _ => htrue _) fun _ h => h) fun _ => ?_
  refine Triple.andThen (Triple.withLocals fun _ =>
    (keeps_writeChecksums (htrue _)).weaken fun w own h => h.2) fun pending => ?_
  refine Triple.via (fun _ w _ => ∃ attempt ∈ w.history, attempt.succeeded = true ∧
    attempt.label = .change (.rename (path ++ [checksumTemporaryName])
      (path ++ [checksumFileName]))) ?_ fun _ => Keeps.ok pending
  apply Disk.triple_performAs
  · intro w v tree _ _
    exact ⟨_, List.mem_cons_self, rfl, rfl⟩
  · intro w v error _
    trivial

end Benchplane
