import Benchplane.Library.Lockstep
import Benchplane.Library.Subtree
import Benchplane.Run.Footprint
import Benchplane.Run.SubmittedEvidence

/-!
# Reproducible runs

An allocated run looks at nothing but its own directory, the clock and its services.  So two
runs of one request that both succeed publish the same directory and report the same
result, whatever else is on the disks and whatever fails on the way.
-/

namespace Benchplane

open Library

/-- The two disks have the same staging directory, and the clock has been read as often. -/
def Alike (layout : Layout) (w w' : DiskWorld) : Prop :=
  (∃ d, w.store.lookup layout.staging = some (.directory d) ∧
    w'.store.lookup layout.staging = some (.directory d)) ∧
  w.clockReadings = w'.clockReadings

section

variable {ρ ε α : Type} {faults faults' : Faults} {layout : Layout}

/-! ## Operations -/

/-- An operation inside the staging directory does the same on both sides. -/
theorem lockstep_performAs {label : Operation} {operation op : FileOperation}
    {failure : IoError → ε} (hinside : operation = op.inside layout.staging)
    (hscope : [] ∉ op.scope) :
    Lockstep faults faults' (Alike layout)
      (Disk.performAs label operation failure : DiskProgram ρ ε Unit)
      (Disk.performAs label operation failure) (Alike layout) := by
  subst hinside
  apply Lockstep.perform
  rintro w w' _ _ tree tree' ⟨⟨d, hd, hd'⟩, hclock⟩ hop hop'
  refine ⟨rfl, ?_, hclock⟩
  split at hop
  · contradiction
  rename_i after happly
  split at hop'
  · contradiction
  rename_i after' happly'
  obtain ⟨-, rfl⟩ := Prod.mk.inj (Except.ok.inj hop)
  obtain ⟨-, rfl⟩ := Prod.mk.inj (Except.ok.inj hop')
  obtain ⟨made, hmade, hafter⟩ := FileTree.run_of_apply_inside hd hscope happly
  obtain ⟨made', hmade', hafter'⟩ := FileTree.run_of_apply_inside hd' hscope happly'
  obtain rfl : made = made' := Except.ok.inj (hmade.symm.trans hmade')
  exact ⟨made, hafter, hafter'⟩

/-- Making sure that a directory on the way to the staging directory exists keeps it. -/
theorem lockstep_ensureAbove {path : List FileName} {failure : IoError → ε}
    (hpath : path <+: layout.staging) :
    Lockstep faults faults' (Alike layout)
      (Disk.change (.ensureDirectory path) failure : DiskProgram ρ ε Unit)
      (Disk.change (.ensureDirectory path) failure) (Alike layout) := by
  -- a parent of the staging directory may be that directory, which is kept as well
  have hkept : ∀ {tree after : FileTree} {d : Directory},
      tree.lookup layout.staging = some (.directory d) →
      (FileOperation.ensureDirectory path).apply tree = .ok after →
      after.lookup layout.staging = some (.directory d) := by
    intro tree after d hd happly
    by_cases hself : layout.staging <+: path
    · obtain rfl : path = layout.staging :=
        hpath.eq_of_length (Nat.le_antisymm hpath.length_le hself.length_le)
      have hentry : Change.ensureDirectory (tree.lookup layout.staging) =
          .ok (after.lookup layout.staging) :=
        Directory.lookup_atEntry_self (FileOperation.run_of_apply happly)
      rw [hd] at hentry
      exact (Except.ok.inj hentry).symm
    · rw [FileTree.lookup_ensureDirectory happly hself]
      exact hd
  apply Lockstep.perform
  rintro w w' _ _ tree tree' ⟨⟨d, hd, hd'⟩, hclock⟩ hop hop'
  refine ⟨rfl, ⟨d, ?_, ?_⟩, hclock⟩
  · split at hop
    · contradiction
    rename_i after happly
    obtain ⟨-, rfl⟩ := Prod.mk.inj (Except.ok.inj hop)
    exact hkept hd happly
  · split at hop'
    · contradiction
    rename_i after' happly'
    obtain ⟨-, rfl⟩ := Prod.mk.inj (Except.ok.inj hop')
    exact hkept hd' happly'

/-- A look at the staging directory sees the same. -/
theorem lockstep_read {path : List FileName} {failure : IoError → ε}
    {look : FileTree → Except ε α}
    (hlook : ∀ disk disk' d, disk.lookup layout.staging = some (.directory d) →
      disk'.lookup layout.staging = some (.directory d) → look disk = look disk') :
    Lockstep faults faults' (Alike layout) (Disk.read path failure look : DiskProgram ρ ε α)
      (Disk.read path failure look) (Alike layout) := by
  apply Lockstep.perform
  rintro w w' a a' tree tree' ⟨⟨d, hd, hd'⟩, hclock⟩ hop hop'
  rw [hlook _ _ d hd hd'] at hop
  cases hsame : look w'.store with
  | error e =>
      rw [hsame] at hop
      contradiction
  | ok value =>
      rw [hsame] at hop hop'
      obtain ⟨rfl, rfl⟩ := Prod.mk.inj (Except.ok.inj hop)
      obtain ⟨rfl, rfl⟩ := Prod.mk.inj (Except.ok.inj hop')
      exact ⟨rfl, ⟨d, hd, hd'⟩, hclock⟩

/-- The store, the clock and the locals are as they were. -/
def Unmoved (w : DiskWorld) (v : ρ) (w' : DiskWorld) (v' : ρ) : Prop :=
  w'.store = w.store ∧ w'.clockReadings = w.clockReadings ∧ v' = v

/-- A program behind the check that a path is free starts where the check started. -/
theorem exists_of_unlessExists {path : List FileName} {failure : ε} {p : DiskProgram ρ ε α}
    {w : DiskWorld} {v : ρ} {a : α}
    (h : ((Disk.pathExists path : DiskProgram ρ ε Bool).andThen (fun found =>
      (Program.when found (Program.fail failure)).andThen fun _ => p) faults w v).outcome =
        .ok a) :
    ∃ world : DiskWorld, world.store = w.store ∧ world.clockReadings = w.clockReadings ∧
      (Disk.pathExists path : DiskProgram ρ ε Bool).andThen (fun found =>
        (Program.when found (Program.fail failure)).andThen fun _ => p) faults w v =
          p faults world v := by
  have hread : Triple faults (Unmoved w v)
      (Disk.read path id (fun tree => .ok (tree.exists path)) : DiskProgram ρ IoError Bool)
      (fun _ => Unmoved w v) (fun _ => Unmoved w v) :=
    Disk.triple_read (fun _ _ _ h _ => h) (fun _ _ _ h => h) fun _ _ _ h _ => h
  have hlook : Triple faults (Unmoved w v) (Disk.pathExists path : DiskProgram ρ ε Bool)
      (fun _ => Unmoved w v) (fun _ => Unmoved w v) := Triple.recover hread fun _ _ _ h => h
  obtain ⟨found, hfound, hend⟩ := Program.exists_of_andThen h
  have hunmoved := hlook w v ⟨rfl, rfl, rfl⟩
  unfold Ended.Meets at hunmoved
  rw [hfound] at hunmoved
  obtain ⟨hstore, hclock, hlocals⟩ := hunmoved
  rw [hend] at h
  cases found with
  | true => contradiction
  | false => exact ⟨_, hstore, hclock, hend.trans (congrArg (p faults _) hlocals)⟩

theorem lockstep_unlessExists {path : List FileName} {failure : ε}
    {rest rest' : DiskProgram ρ ε α} {post : DiskWorld → DiskWorld → Prop}
    (hrest : Lockstep faults faults' (Alike layout) rest rest' post) :
    Lockstep faults faults' (Alike layout)
      (do
        let found ← Disk.pathExists path
        Program.when found (Program.fail failure)
        rest)
      (do
        let found ← Disk.pathExists path
        Program.when found (Program.fail failure)
        rest') post := by
  intro w w' v a a' hpre hout hout'
  obtain ⟨world, hstore, hclock, hend⟩ := exists_of_unlessExists hout
  obtain ⟨world', hstore', hclock', hend'⟩ := exists_of_unlessExists hout'
  have halike : Alike layout world world' := by
    unfold Alike
    rw [hstore, hclock, hstore', hclock']
    exact hpre
  simp only [Program.bind_eq_andThen] at hout hout' ⊢
  rw [hend] at hout ⊢
  rw [hend'] at hout' ⊢
  exact hrest world world' v a a' halike hout hout'

theorem lockstep_now {clock : Nat → String} :
    Lockstep faults faults' (Alike layout) (Program.now clock : DiskProgram ρ ε String)
      (Program.now clock) (Alike layout) := by
  apply Lockstep.now
  intro w w' h
  exact ⟨h.2, h.1, congrArg (· + 1) h.2⟩

/-! ## Writing -/

theorem below_ne_nil (file : StagedFile) (name : FileName) : file.below name ≠ [] := by
  unfold StagedFile.below
  split
  · exact List.cons_ne_nil _ _
  · exact List.cons_ne_nil _ _

theorem nil_notMem_singleton {path : List FileName} (h : path ≠ []) : [] ∉ [path] :=
  fun hmem => h (List.mem_singleton.mp hmem).symm

theorem lockstep_changeFile {file : StagedFile} {label : Operation} {failure : IoError → ε} :
    Lockstep faults faults' (Alike layout)
        (Disk.performAs label (.createFile (layout.path file)) failure : DiskProgram ρ ε Unit)
        (Disk.performAs label (.createFile (layout.path file)) failure) (Alike layout) ∧
      ∀ bytes, Lockstep faults faults' (Alike layout)
        (Disk.performAs label (.append (layout.path file) bytes) failure : DiskProgram ρ ε Unit)
        (Disk.performAs label (.append (layout.path file) bytes) failure) (Alike layout) := by
  have hpath : [] ∉ [file.below file.name] := nil_notMem_singleton (below_ne_nil file file.name)
  constructor
  · exact @lockstep_performAs _ _ _ _ _ _ _ (.createFile (file.below file.name)) _ rfl hpath
  · intro bytes
    exact @lockstep_performAs _ _ _ _ _ _ _ (.append (file.below file.name) bytes) _ rfl hpath

theorem lockstep_writeBytes {label : FileOperation → Operation} {path : List FileName}
    {bytes : Bytes} (hpath : path ≠ []) :
    Lockstep faults faults' (Alike layout)
      (writeBytes label (layout.staging ++ path) bytes : DiskProgram ρ RunError Unit)
      (writeBytes label (layout.staging ++ path) bytes) (Alike layout) := by
  have hscope : [] ∉ [path] := nil_notMem_singleton hpath
  unfold writeBytes
  apply Lockstep.andThen
  · exact @lockstep_performAs _ _ _ _ _ _ _ (.createFile path) _ rfl hscope
  · intro _
    exact @lockstep_performAs _ _ _ _ _ _ _ (.append path bytes) _ rfl hscope

variable {codec : Codec} {services : Services}

theorem lockstep_writePayload {formatFloat : FormatFloat} {file : StagedFile}
    {record : Record} :
    Lockstep faults faults' (Alike layout)
      (writePayload formatFloat layout file record : DiskProgram ρ RunError Unit)
      (writePayload formatFloat layout file record) (Alike layout) := by
  unfold writePayload writeJsonAtomic
  apply Lockstep.andThen (lockstep_writeBytes (below_ne_nil file file.temporaryName))
  intro _
  have hscope : [] ∉ [file.below file.temporaryName, file.below file.name] :=
    List.not_mem_cons_of_ne_of_not_mem (below_ne_nil file file.temporaryName).symm
      (nil_notMem_singleton (below_ne_nil file file.name))
  exact @lockstep_performAs _ _ _ _ _ _ _
    (.rename (file.below file.temporaryName) (file.below file.name)) _ rfl hscope

theorem lockstep_appendJsonLine {formatFloat : FormatFloat} {file : StagedFile}
    {record : Record} :
    Lockstep faults faults' (Alike layout)
      (appendJsonLine formatFloat (layout.path file) record : DiskProgram ρ RunError Unit)
      (appendJsonLine formatFloat (layout.path file) record) (Alike layout) :=
  lockstep_changeFile.2 _

theorem lockstep_writeRunRecord :
    Lockstep faults faults' (Alike layout) (writeRunRecord codec layout)
      (writeRunRecord codec layout) (Alike layout) :=
  Lockstep.andThen Lockstep.get fun _ => lockstep_writePayload

theorem lockstep_writeAttemptRecord :
    Lockstep faults faults' (Alike layout) (writeAttemptRecord codec layout)
      (writeAttemptRecord codec layout) (Alike layout) :=
  Lockstep.andThen Lockstep.get fun _ => lockstep_writePayload

theorem lockstep_persistRunTransition {target : RunState} {failure : Option FailureRecord} :
    Lockstep faults faults' (Alike layout)
      (persistRunTransition codec services layout target failure)
      (persistRunTransition codec services layout target failure) (Alike layout) := by
  unfold persistRunTransition
  simp only [Program.bind_eq_andThen]
  apply Lockstep.andThen lockstep_now
  intro recordedAt
  apply Lockstep.andThen Lockstep.get
  intro locals
  apply Lockstep.andThen Lockstep.ofExcept
  intro step
  apply Lockstep.andThen Lockstep.modify
  intro _
  apply Lockstep.andThen lockstep_appendJsonLine
  intro _
  apply Lockstep.andThen Lockstep.modify
  intro _
  exact lockstep_writeRunRecord

theorem lockstep_persistAttemptStatus {status : AttemptStatus} {failure : Option FailureRecord} :
    Lockstep faults faults' (Alike layout)
      (persistAttemptStatus codec services layout status failure)
      (persistAttemptStatus codec services layout status failure) (Alike layout) := by
  apply Lockstep.andThen lockstep_now
  intro recordedAt
  apply Lockstep.andThen Lockstep.modify
  intro _
  exact lockstep_writeAttemptRecord

/-! ## The phases -/

variable {bytes : Bytes} {plan : ResolvedExperiment}

theorem lockstep_createAttemptDirectory :
    Lockstep faults faults' (Alike layout)
      (createDirectory layout.attemptDirectory : DiskProgram ρ RunError Unit)
      (createDirectory layout.attemptDirectory) (Alike layout) := by
  apply Lockstep.forEach
  intro ancestor hancestor
  have habove : ancestor <+: layout.attemptDirectory :=
    (List.mem_inits _ _).mp (List.mem_of_mem_tail hancestor)
  have hstaging : layout.staging <+: layout.attemptDirectory := List.prefix_append _ _
  rcases List.prefix_or_prefix_of_prefix habove hstaging with hbefore | ⟨rest, rfl⟩
  · exact lockstep_ensureAbove hbefore
  · by_cases hrest : rest = []
    · rw [hrest, List.append_nil]
      exact lockstep_ensureAbove List.prefix_rfl
    · have hscope : [] ∉ [rest] := nil_notMem_singleton hrest
      exact @lockstep_performAs _ _ _ _ _ _ _ (.ensureDirectory rest) _ rfl hscope

theorem lockstep_stageInitial {initialEvent : LifecycleEvent} :
    Lockstep faults faults' (Alike layout)
      (stageInitial codec layout bytes plan initialEvent)
      (stageInitial codec layout bytes plan initialEvent) (Alike layout) := by
  apply Lockstep.mapError
  apply Lockstep.andThen lockstep_createAttemptDirectory
  intro _
  apply Lockstep.andThen (lockstep_writeBytes (below_ne_nil .experiment _))
  intro _
  apply Lockstep.andThen lockstep_writePayload
  intro _
  apply Lockstep.andThen lockstep_changeFile.1
  intro _
  apply Lockstep.andThen lockstep_appendJsonLine
  intro _
  apply Lockstep.andThen lockstep_changeFile.1
  intro _
  apply Lockstep.andThen lockstep_writeRunRecord
  intro _
  exact lockstep_writeAttemptRecord

theorem lockstep_prepare :
    Lockstep faults faults' (Alike layout) (prepare codec services layout plan)
      (prepare codec services layout plan) (Alike layout) := by
  apply Lockstep.mapError
  apply Lockstep.andThen lockstep_persistRunTransition
  intro _
  apply Lockstep.andThen lockstep_persistAttemptStatus
  intro _
  apply Lockstep.andThen Lockstep.orPanic
  intro provenance
  apply Lockstep.andThen lockstep_writePayload
  intro _
  exact Lockstep.ok provenance

theorem lockstep_beginRunning :
    Lockstep faults faults' (Alike layout) (beginRunning codec services layout)
      (beginRunning codec services layout) (Alike layout) := by
  apply Lockstep.mapError
  apply Lockstep.andThen lockstep_persistRunTransition
  intro _
  exact lockstep_persistAttemptStatus

variable {execution : ExecutionOutput}

theorem lockstep_recordProvenance {provenance : AttemptProvenance} :
    Lockstep faults faults' (Alike layout) (recordProvenance codec layout provenance execution)
      (recordProvenance codec layout provenance execution) (Alike layout) := by
  unfold recordProvenance
  cases execution.nvidiaGpu with
  | none => exact Lockstep.ok ()
  | some nvidia =>
      apply Lockstep.mapError
      apply Lockstep.andThen Lockstep.orPanic
      intro attached
      exact lockstep_writePayload

theorem lockstep_endAttempt :
    Lockstep faults faults' (Alike layout) (endAttempt codec services layout execution)
      (endAttempt codec services layout execution) (Alike layout) := by
  apply Lockstep.mapError
  apply Lockstep.andThen Lockstep.orPanic
  intro status
  exact lockstep_persistAttemptStatus

theorem lockstep_recordResources :
    Lockstep faults faults' (Alike layout) (recordResources codec layout execution)
      (recordResources codec layout execution) (Alike layout) := by
  unfold recordResources
  cases execution.resources with
  | none => exact Lockstep.ok ()
  | some resources => exact Lockstep.mapError lockstep_writePayload

theorem lockstep_recordMeasurements :
    Lockstep faults faults' (Alike layout) (recordMeasurements codec layout execution)
      (recordMeasurements codec layout execution) (Alike layout) := by
  apply Lockstep.mapError
  apply Lockstep.forEach
  intro measurement _
  exact lockstep_appendJsonLine

theorem lockstep_collect :
    Lockstep faults faults' (Alike layout) (collect codec services layout execution)
      (collect codec services layout execution) (Alike layout) :=
  Lockstep.mapError (Lockstep.when lockstep_persistRunTransition)

theorem lockstep_finalize {validity : ValidityResult} {summary : RunSummary} :
    Lockstep faults faults' (Alike layout)
      (finalize codec services layout plan execution validity summary)
      (finalize codec services layout plan execution validity summary) (Alike layout) := by
  apply Lockstep.mapError
  apply Lockstep.andThen lockstep_persistRunTransition
  intro _
  apply Lockstep.andThen lockstep_persistRunTransition
  intro _
  apply Lockstep.andThen lockstep_writePayload
  intro _
  apply Lockstep.andThen lockstep_writePayload
  intro _
  exact lockstep_writePayload

/-! ## The inventory -/

theorem canonicalBundleRoot_congr {path : List FileName} {disk disk' : FileTree} {d : Directory}
    (hd : disk.lookup path = some (.directory d)) (hd' : disk'.lookup path = some (.directory d)) :
    canonicalBundleRoot path disk = canonicalBundleRoot path disk' := by
  obtain ⟨root, hroot, rfl⟩ := exists_canonicalBundleRoot hd
  obtain ⟨rfl, -⟩ := canonicalBundleRoot_eq_ok hroot
  rw [hroot]
  exact (canonicalBundleRoot_of_lookup hd').symm

/-- A handler that goes on to fail never ends normally. -/
theorem ne_ok_of_thenFail {σ ℓ β : Type} {p : Program σ ℓ ρ ε β} {failure : ε} {w : World σ ℓ}
    {v : ρ} {a : α} :
    (p.andThen (fun _ => (Program.fail failure : Program σ ℓ ρ ε α)) faults w v).outcome ≠
      .ok a := by
  intro h
  obtain ⟨_, -, hend⟩ := Program.exists_of_andThen h
  rw [hend] at h
  contradiction

theorem checksumTemporary_scope : [] ∉ [[checksumTemporaryName]] :=
  nil_notMem_singleton (List.cons_ne_nil _ _)

theorem lockstep_flush :
    Lockstep faults faults' (Alike layout)
      (ChecksumWriter.flush (layout.staging ++ [checksumTemporaryName]))
      (ChecksumWriter.flush (layout.staging ++ [checksumTemporaryName])) (Alike layout) := by
  unfold ChecksumWriter.flush
  simp only [Program.bind_eq_andThen]
  apply Lockstep.andThen Lockstep.get
  intro writer
  by_cases hempty : writer.buffer = []
  · rw [if_pos hempty]
    exact Lockstep.ok ()
  · rw [if_neg hempty]
    apply Lockstep.andThen
    · exact @lockstep_performAs _ _ _ _ _ _ _ (.append [checksumTemporaryName] writer.buffer) _
        rfl checksumTemporary_scope
    · intro _
      exact Lockstep.modify

theorem lockstep_place {content : Bytes} :
    Lockstep faults faults' (Alike layout)
      (ChecksumWriter.place (layout.staging ++ [checksumTemporaryName]) content)
      (ChecksumWriter.place (layout.staging ++ [checksumTemporaryName]) content)
      (Alike layout) := by
  unfold ChecksumWriter.place
  by_cases hlong : content.length ≥ bufferCapacity
  · rw [if_pos hlong]
    exact @lockstep_performAs _ _ _ _ _ _ _ (.append [checksumTemporaryName] content) _ rfl
      checksumTemporary_scope
  · rw [if_neg hlong]
    exact Lockstep.modify

theorem lockstep_hashPayload {hash : Bytes → Digest} {relative : Bytes} {display : String} :
    Lockstep faults faults' (Alike layout)
      (hashPayload hash layout.staging relative display)
      (hashPayload hash layout.staging relative display) (Alike layout) := by
  apply lockstep_read
  intro disk disk' d hd hd'
  rw [canonicalBundleRoot_congr hd hd']

theorem lockstep_writeChecksums {hash : Bytes → Digest} {payloads : SortedMap String Bytes} :
    Lockstep faults faults' (Alike layout)
      (writeChecksums hash layout.staging (layout.staging ++ [checksumTemporaryName]) payloads)
      (writeChecksums hash layout.staging (layout.staging ++ [checksumTemporaryName]) payloads)
      (Alike layout) := by
  unfold writeChecksums
  simp only [Program.bind_eq_andThen]
  apply Lockstep.recover
  · apply Lockstep.andThen
    · apply Lockstep.forEach
      intro payload _
      unfold writeChecksum ChecksumWriter.writeAll
      simp only [Program.bind_eq_andThen]
      apply Lockstep.andThen lockstep_hashPayload
      intro digest
      apply Lockstep.andThen
      · apply Lockstep.andThen Lockstep.get
        intro writer
        apply Lockstep.andThen (Lockstep.when lockstep_flush)
        intro _
        exact lockstep_place
      · intro _
        exact Lockstep.modify
    · intro _
      apply Lockstep.andThen lockstep_flush
      intro _
      apply Lockstep.andThen Lockstep.get
      intro writer
      exact Lockstep.ok _
  -- the recovery only cleans up: it never ends well
  · exact fun _ _ _ _ => ne_ok_of_thenFail
  · exact fun _ _ _ _ => ne_ok_of_thenFail

theorem lockstep_writeChecksumFile {hash : Bytes → Digest} :
    Lockstep faults faults' (Alike layout)
      (writeChecksumFile hash layout.staging : DiskProgram ρ EvidenceError PendingEvidenceDigest)
      (writeChecksumFile hash layout.staging) (Alike layout) := by
  apply lockstep_unlessExists
  apply Lockstep.andThen
  · apply lockstep_read
    intro disk disk' d hd hd'
    rw [canonicalBundleRoot_congr hd hd']
  intro payloads
  apply Lockstep.andThen
  · exact @lockstep_performAs _ _ _ _ _ _ _ (.createFile [checksumTemporaryName]) _ rfl
      checksumTemporary_scope
  intro _
  apply Lockstep.andThen (Lockstep.withLocals lockstep_writeChecksums)
  intro pending
  apply Lockstep.andThen
  · have hscope : [] ∉ [[checksumTemporaryName], [checksumFileName]] :=
      List.not_mem_cons_of_ne_of_not_mem (List.cons_ne_nil _ _).symm
        (nil_notMem_singleton (List.cons_ne_nil _ _))
    exact @lockstep_performAs _ _ _ _ _ _ _ (.rename [checksumTemporaryName] [checksumFileName]) _
      rfl hscope
  · intro _
    exact Lockstep.ok pending

theorem lockstep_writeInventory :
    Lockstep faults faults' (Alike layout) (writeInventory codec layout)
      (writeInventory codec layout) (Alike layout) :=
  Lockstep.mapError (Lockstep.mapError lockstep_writeChecksumFile)

theorem lockstep_verify :
    Lockstep faults faults' (Alike layout) (verify codec layout) (verify codec layout)
      (Alike layout) := by
  apply Lockstep.mapError
  apply Lockstep.andThen
  · apply Lockstep.mapError
    apply lockstep_read
    intro disk disk' d hd hd'
    unfold verifyEvidenceBundle
    rw [canonicalBundleRoot_congr hd hd']
  · intro _
    exact Lockstep.ok ()

/-- The two final directories are the same. -/
def SamePublished (layout : Layout) (w w' : DiskWorld) : Prop :=
  ∃ d, w.store.lookup layout.finalPath = some (.directory d) ∧
    w'.store.lookup layout.finalPath = some (.directory d)

theorem lockstep_publish :
    Lockstep faults faults' (Alike layout) (publish layout) (publish layout)
      (SamePublished layout) := by
  apply Lockstep.mapError
  apply lockstep_unlessExists
  apply Lockstep.perform
  rintro w w' _ _ tree tree' ⟨⟨d, hd, hd'⟩, -⟩ hop hop'
  have hapart := layout.staging_apart_finalPath
  refine ⟨rfl, d, ?_, ?_⟩
  · split at hop
    · contradiction
    rename_i after happly
    obtain ⟨-, rfl⟩ := Prod.mk.inj (Except.ok.inj hop)
    exact (FileTree.lookup_rename happly hapart.ne hapart.2).1.trans hd
  · split at hop'
    · contradiction
    rename_i after' happly'
    obtain ⟨-, rfl⟩ := Prod.mk.inj (Except.ok.inj hop')
    exact (FileTree.lookup_rename happly' hapart.ne hapart.2).1.trans hd'

/-! ## The whole run -/

theorem lockstep_publishEvidence {validity : ValidityResult} {summary : RunSummary} :
    Lockstep faults faults' (Alike layout)
      (publishEvidence codec services layout plan execution validity summary)
      (publishEvidence codec services layout plan execution validity summary)
      (SamePublished layout) := by
  apply Lockstep.andThen lockstep_finalize
  intro _
  apply Lockstep.andThen lockstep_writeInventory
  intro pending
  apply Lockstep.andThen lockstep_verify
  intro _
  apply Lockstep.andThen lockstep_publish
  intro _
  exact Lockstep.ok _

theorem lockstep_attemptRun {kind : ExecutionKind} {initialEvent : LifecycleEvent} :
    Lockstep faults faults' (Alike layout)
      (attemptRun codec services layout bytes plan kind initialEvent)
      (attemptRun codec services layout bytes plan kind initialEvent)
      (SamePublished layout) := by
  unfold attemptRun
  simp only [Program.bind_eq_andThen]
  apply Lockstep.andThen lockstep_stageInitial
  intro _
  apply Lockstep.andThen lockstep_prepare
  intro provenance
  apply Lockstep.andThen lockstep_beginRunning
  intro _
  apply Lockstep.andThen lockstep_recordProvenance
  intro _
  apply Lockstep.andThen lockstep_endAttempt
  intro _
  apply Lockstep.andThen lockstep_recordResources
  intro _
  apply Lockstep.andThen lockstep_recordMeasurements
  intro _
  apply Lockstep.andThen lockstep_collect
  intro _
  apply Lockstep.andThen Lockstep.orPanic
  intro validity
  -- what is published is the same from here on
  exact lockstep_publishEvidence

theorem lockstep_allocatedRun {kind : ExecutionKind} {initialEvent : LifecycleEvent} :
    Lockstep faults faults' (Alike layout)
      (allocatedRun codec services layout bytes plan kind initialEvent)
      (allocatedRun codec services layout bytes plan kind initialEvent)
      (SamePublished layout) := by
  apply Lockstep.recover lockstep_attemptRun
  · exact fun _ _ _ _ => ne_ok_of_thenFail
  · exact fun _ _ _ _ => ne_ok_of_thenFail

/-- The clock has been read as often. -/
def SameClock (w w' : DiskWorld) : Prop := w.clockReadings = w'.clockReadings

theorem lockstep_createParent {path : List FileName} :
    Lockstep faults faults' SameClock
      (createDirectory path : DiskProgram ρ RunError Unit) (createDirectory path) SameClock := by
  apply Lockstep.forEach
  intro ancestor _
  apply Lockstep.perform
  intro w w' _ _ tree tree' hclock _ _
  exact ⟨rfl, hclock⟩

/-- Two new staging directories are both empty. -/
theorem lockstep_allocate :
    Lockstep faults faults' SameClock
      (createNewDirectory layout.staging : DiskProgram ρ RunError Unit)
      (createNewDirectory layout.staging) (Alike layout) := by
  apply Lockstep.perform
  intro w w' _ _ tree tree' hclock hop hop'
  refine ⟨rfl, ⟨.empty, ?_, ?_⟩, hclock⟩
  · split at hop
    · contradiction
    rename_i after happly
    obtain ⟨-, rfl⟩ := Prod.mk.inj (Except.ok.inj hop)
    exact (FileTree.lookup_createDirectory_self happly).2
  · split at hop'
    · contradiction
    rename_i after' happly'
    obtain ⟨-, rfl⟩ := Prod.mk.inj (Except.ok.inj hop')
    exact (FileTree.lookup_createDirectory_self happly').2

theorem lockstep_openedRun {kind : ExecutionKind} :
    Lockstep faults faults' SameClock
      (openedRun codec services layout bytes plan kind)
      (openedRun codec services layout bytes plan kind) (SamePublished layout) := by
  apply Lockstep.andThen lockstep_createParent
  intro _
  apply Lockstep.andThen lockstep_createParent
  intro _
  apply Lockstep.andThen lockstep_allocate
  intro _
  apply Lockstep.andThen lockstep_now
  intro createdAt
  exact Lockstep.nested lockstep_allocatedRun

end

/-- Two runs of one request, with the same run ID, clock and services, that both succeed
report the same result and publish the same directory: whatever else is on the two disks, and
whatever operations fail without ending the run. -/
theorem runOn_reproducible (faults faults' : Faults) (codec : Codec) (services : Services)
    (outputRoot : List FileName) (bytes : Bytes) (disk disk' : FileTree)
    (result result' : RunResult)
    (hfirst : (runOn codec services outputRoot bytes faults disk).outcome = .ok result)
    (hsecond : (runOn codec services outputRoot bytes faults' disk').outcome = .ok result') :
    result = result' ∧ ∃ d,
      (runOn codec services outputRoot bytes faults disk).world.store.lookup
        (services.layout outputRoot).finalPath = some (.directory d) ∧
      (runOn codec services outputRoot bytes faults' disk').world.store.lookup
        (services.layout outputRoot).finalPath = some (.directory d) := by
  cases haccept : acceptRequest codec services bytes with
  | error error =>
      rw [runOn_of_rejected haccept] at hfirst
      contradiction
  | ok request =>
      obtain ⟨plan, kind⟩ := request
      rw [runOn_opened haccept] at hfirst hsecond ⊢
      rw [runOn_opened haccept]
      obtain ⟨hresult, -, hpublished⟩ := lockstep_openedRun ⟨disk, 0, []⟩ ⟨disk', 0, []⟩ ⟨1, []⟩
        result result' rfl hfirst hsecond
      exact ⟨hresult, hpublished⟩

namespace SampleRun

theorem room_notes : Room (services.layout []) notes := room_of_absent rfl rfl

end SampleRun

/-- A run beside the notes publishes what a run on an empty disk does. -/
theorem runOn_reproducible_sample : ∃ d,
    (runOn SampleRun.readingCodec SampleRun.services [] (utf8 SampleRun.document) noFaults
      .empty).world.store.lookup (SampleRun.services.layout []).finalPath = some (.directory d) ∧
    (runOn SampleRun.readingCodec SampleRun.services [] (utf8 SampleRun.document) noFaults
      SampleRun.notes).world.store.lookup (SampleRun.services.layout []).finalPath =
        some (.directory d) := by
  obtain ⟨result, hresult⟩ := SampleRun.publishes SampleRun.room
  obtain ⟨result', hresult'⟩ := SampleRun.publishes SampleRun.room_notes
  exact (runOn_reproducible noFaults noFaults _ _ _ _ _ _ result result' hresult hresult').2

end Benchplane
