import Benchplane.Evidence.InventoryProgress
import Benchplane.Library.TreeGrowth
import Benchplane.Run.Account
import Benchplane.Run.Tidy

/-!
# A run on a working disk

On a disk where no operation fails by itself, an allocated run goes through all its phases:
it publishes its evidence or the verifier has rejected it.
-/

namespace Benchplane

open Library

/-! ## Room for the publication -/

/-- The final directory is not there and has a parent. -/
def Vacant (layout : Layout) (disk : FileTree) : Prop :=
  disk.lookup layout.finalPath = none ∧
    ∃ d, disk.lookup layout.runsParent = some (.directory d)

/-- Nothing in the staging directory leads to the parent of the final one. -/
theorem Layout.apart_runsParent (layout : Layout) {path : List FileName}
    (h : layout.staging <+: path) : Apart path layout.runsParent := by
  obtain ⟨rest, rfl⟩ := h
  have hplace : layout.staging ++ rest = layout.outputRoot ++
      (.ofString "staging" (by decide) :: layout.runId.fileName :: rest) := by
    simp [Layout.staging, Layout.stagingParent]
  rw [hplace, Layout.runsParent]
  apply apart_append
  have hne : FileName.ofString "staging" (by decide) ≠ FileName.ofString "runs" (by decide) := by
    decide
  constructor
  · intro hprefix
    exact hne (List.cons_prefix_cons.mp hprefix).1
  · intro hprefix
    exact hne (List.cons_prefix_cons.mp hprefix).1.symm

theorem undisturbed_vacant (layout : Layout) :
    Undisturbed layout fun w => Vacant layout w.store where
  respects scope hscope := by
    have hapart : ∀ other ∈ ({layout.finalPath, layout.runsParent} : Set (List FileName)),
        ∀ path ∈ scope, ¬ path <+: other ∧ ¬ other <+: path := by
      rintro other (rfl | rfl) path hpath
      · exact layout.apart_finalPath (hscope path hpath).starts_staging
      · exact layout.apart_runsParent (hscope path hpath).starts_staging
    refine respects_frame hapart (Vacant layout) ?_
    rintro disk disk' hsame ⟨hfree, hparent⟩
    unfold Vacant
    rw [hsame _ (Or.inl rfl), hsame _ (Or.inr rfl)]
    exact ⟨hfree, hparent⟩
  ensured w path tree h hpath happly := by
    refine ⟨(FileTree.lookup_ensureDirectory happly hpath).trans h.1, ?_⟩
    by_cases hparent : layout.runsParent <+: path
    · -- the directory that was made is in it
      obtain ⟨rest, rfl⟩ := hparent
      obtain ⟨d, hd⟩ := FileTree.lookup_ensureDirectory_self happly
      cases rest with
      | nil =>
          rw [List.append_nil] at hd
          exact ⟨d, hd⟩
      | cons first rest => exact FileTree.exists_directory_of_lookup hd
    · obtain ⟨d, hd⟩ := h.2
      exact ⟨d, (FileTree.lookup_ensureDirectory happly hparent).trans hd⟩
  refused _ _ h := h

/-! ## The phases -/

/-- A staging directory with its journals. -/
def Ready (layout : Layout) (disk : FileTree) : Prop :=
  Tidy layout none [.events, .measurements] disk

/-- A staging directory that has just been made. -/
def Fresh (layout : Layout) (disk : FileTree) : Prop :=
  disk.lookup layout.staging = some (.directory .empty)

/-- The failure of a phase comes from the lifecycle. -/
abbrev OutOfOrder (failure : AllocatedFailure) (_ : DiskWorld) (_ : RunLocals) : Prop :=
  failure.source.isLifecycle = true

section

variable {codec : Codec} {services : Services} {layout : Layout} {bytes : Bytes}
  {plan : ResolvedExperiment}

theorem succeeds_readyPayload {file : StagedFile} {record : Record}
    {failed : RunError → DiskWorld → RunLocals → Prop} :
    Triple noFaults (fun w _ => Ready layout w.store)
      (writePayload codec.formatFloat layout file record) (fun _ w _ => Ready layout w.store)
      failed :=
  succeeds_writePayload.conseq (fun _ _ h => h)
    (fun _ _ _ h => h.mono (List.subset_cons_self _ _)) fun _ _ _ h => h

theorem succeeds_persistRunTransition {target : RunState} {failure : Option FailureRecord} :
    Triple noFaults (fun w _ => Ready layout w.store)
      (persistRunTransition codec services layout target failure)
      (fun _ w _ => Ready layout w.store) (fun error _ _ => error.isLifecycle = true) := by
  unfold persistRunTransition
  apply Triple.via (fun _ w _ => Ready layout w.store) (Triple.now fun _ _ h => h)
  intro recordedAt
  apply Triple.via (fun _ w _ => Ready layout w.store) Triple.get
  intro locals
  apply Triple.via (fun _ w _ => Ready layout w.store)
  · apply Triple.ofExcept
    · intro step _ w v h
      exact h
    · intro error herror w v _
      -- the lifecycle may refuse the step, but nothing else can go wrong
      obtain ⟨refused, rfl⟩ : ∃ refused, error = .lifecycle refused := by
        revert herror
        cases locals.lifecycle.transition target recordedAt failure with
        | ok step => exact fun herror => nomatch herror
        | error refused => exact fun herror => ⟨refused, (Except.error.inj herror).symm⟩
      rfl
  rintro ⟨event, lifecycle⟩
  apply Triple.via (fun _ w _ => Ready layout w.store) (Triple.modify fun _ _ h => h)
  intro _
  apply Triple.via (fun _ w _ => Ready layout w.store)
    (succeeds_appendJsonLine List.mem_cons_self)
  intro _
  apply Triple.via (fun _ w _ => Ready layout w.store) (Triple.modify fun _ _ h => h)
  intro _
  unfold writeRunRecord
  exact Triple.via (fun _ w _ => Ready layout w.store) (fun _ _ h => h) fun _ =>
    succeeds_readyPayload

theorem succeeds_persistAttemptStatus {status : AttemptStatus}
    {failure : Option FailureRecord} {failed : RunError → DiskWorld → RunLocals → Prop} :
    Triple noFaults (fun w _ => Ready layout w.store)
      (persistAttemptStatus codec services layout status failure)
      (fun _ w _ => Ready layout w.store) failed := by
  unfold persistAttemptStatus writeAttemptRecord
  apply Triple.via (fun _ w _ => Ready layout w.store) (Triple.now fun _ _ h => h)
  intro recordedAt
  apply Triple.via (fun _ w _ => Ready layout w.store) (Triple.modify fun _ _ h => h)
  intro _
  exact Triple.via (fun _ w _ => Ready layout w.store) (fun _ _ h => h) fun _ =>
    succeeds_readyPayload

/-- The attempt's directory is made in a fresh staging directory. -/
theorem succeeds_createAttemptDirectory {failed : RunError → DiskWorld → RunLocals → Prop} :
    Triple noFaults (fun w _ => Fresh layout w.store)
      (createDirectory layout.attemptDirectory)
      (fun _ w _ => Tidy layout none [] w.store) failed := by
  intro w v hfresh
  -- below the fresh directory there is nothing
  have hbelow : ∀ first rest, w.store.lookup (layout.staging ++ first :: rest) = none := by
    intro first rest
    rw [FileTree.lookup_append, hfresh]
    rfl
  refine (Disk.succeeds_createDirAll ?_ w v rfl).mono ?_ fun _ _ _ h => h
  · intro ancestor hancestor
    rcases List.prefix_or_prefix_of_prefix hancestor
      (List.prefix_append layout.staging [attemptsName, firstAttemptName]) with habove | hin
    · obtain ⟨rest, hrest⟩ := habove
      rw [Fresh, ← hrest] at hfresh
      cases rest with
      | nil =>
          rw [List.append_nil] at hfresh
          exact Or.inr ⟨_, hfresh⟩
      | cons first rest => exact Or.inr (FileTree.exists_directory_of_lookup hfresh)
    · obtain ⟨rest, rfl⟩ := hin
      cases rest with
      | nil =>
          rw [List.append_nil]
          exact Or.inr ⟨_, hfresh⟩
      | cons first rest => exact Or.inl (hbelow first rest)
  · intro _ w' _ hopened
    refine ⟨hopened.directories _ List.prefix_rfl, ?_, by simp⟩
    intro below node hnode
    by_cases hway : below <+: [attemptsName, firstAttemptName]
    · refine Or.inl ⟨hway, ?_⟩
      obtain ⟨d, hd⟩ := hopened.directories (layout.staging ++ below)
        ((List.prefix_append_right_inj _).mpr hway)
      rw [hnode] at hd
      exact ⟨d, Option.some.inj hd⟩
    · -- such an entry would be one of the fresh directory
      rw [hopened.others _ fun hprefix => hway ((List.prefix_append_right_inj _).mp hprefix)]
        at hnode
      cases below with
      | nil => exact absurd List.nil_prefix hway
      | cons first rest =>
          rw [hbelow] at hnode
          contradiction

theorem succeeds_stageInitial {initialEvent : LifecycleEvent} :
    Triple noFaults (fun w _ => Fresh layout w.store)
      (stageInitial codec layout bytes plan initialEvent)
      (fun _ w _ => Ready layout w.store) OutOfOrder := by
  apply Triple.mapError
  apply Triple.via (fun _ w _ => Tidy layout none [] w.store) succeeds_createAttemptDirectory
  intro _
  apply Triple.via (fun _ w _ => Tidy layout none [.experiment] w.store)
  · unfold writeBytes
    exact Triple.via (fun _ w _ => Tidy layout none [.experiment] w.store)
      succeeds_createPayload fun _ => succeeds_appendPayload List.mem_cons_self
  intro _
  apply Triple.via (fun _ w _ => Tidy layout none [.plan, .experiment] w.store)
    succeeds_writePayload
  intro _
  apply Triple.via (fun _ w _ => Tidy layout none [.events, .plan, .experiment] w.store)
    succeeds_createPayload
  intro _
  apply Triple.via (fun _ w _ => Tidy layout none [.events, .plan, .experiment] w.store)
    (succeeds_appendJsonLine List.mem_cons_self)
  intro _
  apply Triple.via (fun _ w _ => Ready layout w.store)
  · refine succeeds_createPayload.conseq (fun _ _ h => h) ?_ fun _ _ _ h => h
    intro _ w v h
    exact h.mono (by simp)
  intro _
  unfold writeSnapshots writeRunRecord writeAttemptRecord
  apply Triple.via (fun _ w _ => Ready layout w.store)
  · exact Triple.via (fun _ w _ => Ready layout w.store) (fun _ _ h => h) fun _ =>
      succeeds_readyPayload
  intro _
  exact Triple.via (fun _ w _ => Ready layout w.store) (fun _ _ h => h) fun _ =>
    succeeds_readyPayload

theorem succeeds_prepare {kind : ExecutionKind} (hkind : IsExecutable plan kind) :
    Triple noFaults (fun w _ => Ready layout w.store) (prepare codec services layout plan)
      (fun _ w _ => Ready layout w.store) OutOfOrder := by
  apply Triple.mapError
  apply Triple.via (fun _ w _ => Ready layout w.store) succeeds_persistRunTransition
  intro _
  apply Triple.via (fun _ w _ => Ready layout w.store) succeeds_persistAttemptStatus
  intro _
  apply Triple.via (fun _ w _ => Ready layout w.store)
    (Triple.orPanic (capture_isSome_of_executable hkind) fun _ _ _ _ h => h)
  intro provenance
  exact Triple.via (fun _ w _ => Ready layout w.store) succeeds_readyPayload fun _ _ _ h => h

theorem succeeds_beginRunning :
    Triple noFaults (fun w _ => Ready layout w.store) (beginRunning codec services layout)
      (fun _ w _ => Ready layout w.store) OutOfOrder := by
  apply Triple.mapError
  exact Triple.via (fun _ w _ => Ready layout w.store) succeeds_persistRunTransition fun _ =>
    succeeds_persistAttemptStatus

theorem succeeds_recordProvenance {kind : ExecutionKind} (hkind : IsExecutable plan kind)
    {provenance : AttemptProvenance}
    (hcapture : capture services.host layout.runId.text plan = some provenance) :
    Triple noFaults (fun w _ => Ready layout w.store)
      (recordProvenance codec layout provenance (executeRuntime codec services plan kind))
      (fun _ w _ => Ready layout w.store) OutOfOrder := by
  unfold recordProvenance
  split
  · exact fun _ _ h => h
  · rename_i nvidia hnvidia
    apply Triple.mapError
    exact Triple.via (fun _ w _ => Ready layout w.store)
      (Triple.orPanic (attachNvidia_isSome hkind hcapture hnvidia) fun _ _ _ _ h => h) fun _ =>
      succeeds_readyPayload

theorem succeeds_endAttempt {execution : ExecutionOutput}
    (hterminal : execution.terminalState.isTerminal = true) :
    Triple noFaults (fun w _ => Ready layout w.store)
      (endAttempt codec services layout execution) (fun _ w _ => Ready layout w.store)
      OutOfOrder := by
  apply Triple.mapError
  exact Triple.via (fun _ w _ => Ready layout w.store)
    (Triple.orPanic (attemptTerminal_isSome hterminal) fun _ _ _ _ h => h) fun _ =>
    succeeds_persistAttemptStatus

theorem succeeds_recordResources {execution : ExecutionOutput} :
    Triple noFaults (fun w _ => Ready layout w.store) (recordResources codec layout execution)
      (fun _ w _ => Ready layout w.store) OutOfOrder := by
  unfold recordResources
  split
  · exact fun _ _ h => h
  · exact Triple.mapError succeeds_readyPayload

theorem succeeds_recordMeasurements {execution : ExecutionOutput} :
    Triple noFaults (fun w _ => Ready layout w.store)
      (recordMeasurements codec layout execution) (fun _ w _ => Ready layout w.store)
      OutOfOrder := by
  apply Triple.mapError
  exact Triple.forEach (fun _ _ w _ => Ready layout w.store) fun done record rest _ =>
    succeeds_appendJsonLine (by simp)

theorem succeeds_collect {execution : ExecutionOutput} :
    Triple noFaults (fun w _ => Ready layout w.store) (collect codec services layout execution)
      (fun _ w _ => Ready layout w.store) OutOfOrder := by
  apply Triple.mapError
  exact Triple.when (fun _ => succeeds_persistRunTransition) fun _ _ _ h => h

theorem succeeds_finalize {execution : ExecutionOutput} {validity : ValidityResult}
    {summary : RunSummary} :
    Triple noFaults (fun w _ => Ready layout w.store)
      (finalize codec services layout plan execution validity summary)
      (fun _ w _ => Ready layout w.store) OutOfOrder := by
  apply Triple.mapError
  apply Triple.via (fun _ w _ => Ready layout w.store) succeeds_persistRunTransition
  intro _
  apply Triple.via (fun _ w _ => Ready layout w.store) succeeds_persistRunTransition
  intro _
  apply Triple.via (fun _ w _ => Ready layout w.store) succeeds_readyPayload
  intro _
  exact Triple.via (fun _ w _ => Ready layout w.store) succeeds_readyPayload fun _ =>
    succeeds_readyPayload

end

/-! ## The inventory -/

/-- Every payload. -/
def StagedFile.all : List StagedFile :=
  [.experiment, .plan, .run, .events, .validity, .summary, .manifest, .attempt, .measurements,
    .provenance, .resources]

theorem StagedFile.mem_all (file : StagedFile) : file ∈ StagedFile.all := by
  cases file <;> decide

/-- The places of a staging directory without temporary files. -/
def stagedPlaces : List (List FileName) :=
  [attemptsName] :: [attemptsName, firstAttemptName] :: StagedFile.all.map StagedFile.path

/-- All of them have names that can be written. -/
theorem exists_normalized_of_mem_stagedPlaces {place : List FileName}
    (h : place ∈ stagedPlaces) :
    ∃ text, normalizedRelativePath (relativePath place) = .ok text := by
  have hall : ∀ place ∈ stagedPlaces,
      (normalizedRelativePath (relativePath place)).isOk = true := by decide
  exact exists_of_isOk (hall place h)

section

variable {codec : Codec} {services : Services} {layout : Layout} {bytes : Bytes}
  {plan : ResolvedExperiment} {present : List StagedFile} {disk : FileTree} {d : Directory}

/-- The entries of a staging directory without temporary files. -/
theorem Tidy.known (h : Tidy layout none present disk)
    (hd : disk.lookup layout.staging = some (.directory d)) :
    ∀ path node, d.lookup path = some node →
      (path <+: [attemptsName, firstAttemptName] ∧ ∃ sub, node = .directory sub) ∨
        (∃ file : StagedFile, path = file.path) ∧ ∃ content, node = .file content := by
  intro path node hnode
  have hlookup : disk.lookup (layout.staging ++ path) = some node := by
    rw [FileTree.lookup_append, hd]
    exact hnode
  rcases h.entries path node hlookup with hdirectory | ⟨hpath | ⟨file, hfile, -⟩, hcontent⟩
  · exact Or.inl hdirectory
  · exact Or.inr ⟨hpath, hcontent⟩
  · contradiction

/-- A directory with payloads and nothing else. -/
structure OnlyPayloads (d : Directory) : Prop where
  places : ∀ path node, path ≠ [] → d.lookup path = some node → path ∈ stagedPlaces
  files : ∀ path content, d.lookup path = some (.file content) →
    ∃ file : StagedFile, path = file.path

/-- A tidy staging directory has nothing but payloads in it. -/
theorem Tidy.onlyPayloads (h : Tidy layout none present disk)
    (hd : disk.lookup layout.staging = some (.directory d)) : OnlyPayloads d := by
  constructor
  case places =>
    intro path node hpath hnode
    rcases h.known hd path node hnode with ⟨hway, -⟩ | ⟨⟨file, rfl⟩, -⟩
    · have hmem := (List.mem_inits _ _).mpr hway
      simp only [List.inits, List.map_cons, List.map_nil, List.mem_cons, List.not_mem_nil,
        or_false] at hmem
      rcases hmem with rfl | rfl | rfl
      · contradiction
      · exact List.mem_cons_self
      · exact List.mem_cons_of_mem _ List.mem_cons_self
    · exact List.mem_cons_of_mem _ (List.mem_cons_of_mem _
        (List.mem_map_of_mem file.mem_all))
  case files =>
    intro path content hcontent
    rcases h.known hd path _ hcontent with ⟨-, sub, hsub⟩ | ⟨hfile, -⟩
    · contradiction
    · exact hfile

theorem Tidy.exists_staging (h : Tidy layout none present disk) :
    ∃ d, disk.lookup layout.staging = some (.directory d) := by
  obtain ⟨d, hd⟩ := h.attempt
  exact FileTree.exists_directory_of_lookup hd

/-- An inventory of a tidy staging directory can be written. -/
theorem Tidy.listable (h : Tidy layout none present disk)
    (hd : disk.lookup layout.staging = some (.directory d)) : Listable d := by
  have hdistinct : d.Distinct := disk.distinct.lookup hd
  have honly := h.onlyPayloads hd
  -- every entry is one of the staged places, and the inventory is none of them
  have habsent : ∀ name, [name] ∉ stagedPlaces → d.find? name = none := by
    intro name hname
    cases hfind : d.find? name with
    | none => rfl
    | some node =>
        have hlookup : d.lookup [name] = some node := (Directory.lookup_singleton name d).trans hfind
        exact absurd (honly.places _ _ (by simp) hlookup) hname
  constructor
  case plain =>
    apply Directory.plain_of_lookup hdistinct
    intro path node hnode
    rcases h.known hd path node hnode with ⟨-, hdirectory⟩ | ⟨-, hcontent⟩
    · exact Or.inr hdirectory
    · exact Or.inl hcontent
  case named =>
    intro path hpath
    obtain ⟨node, hnode⟩ := Directory.exists_lookup_of_mem_paths hdistinct hpath
    obtain ⟨name, below, rfl, -⟩ := Directory.exists_head_of_mem_paths hpath
    exact exists_normalized_of_mem_stagedPlaces (honly.places _ _ (by simp) hnode)
  case entryCount =>
    -- there are far fewer places than an inventory may list
    have hcount := Directory.entryCount_le hdistinct honly.places
    have hplaces : stagedPlaces.length ≤ maxChecksumEntries := by decide
    omega
  case sums => exact habsent _ (by decide)
  case temporary => exact habsent _ (by decide)

end

/-! ## The publication -/

/-- What the verifier looks at: the finalized payloads and their inventory. -/
structure Submitted (codec : Codec) (services : Services) (layout : Layout) (bytes : Bytes)
    (plan : ResolvedExperiment) (IsTime : String → Prop) (execution : ExecutionOutput)
    (disk : FileTree) : Prop where
  vacant : Vacant layout disk
  inventory : ∃ d pending, d.Distinct ∧ Listable d ∧ OnlyPayloads d ∧
    WrittenInventory codec.hash layout.staging d pending disk
  records : ∃ validity ended provenance events v,
    evaluateValidity plan execution layout.runId.text = some validity ∧
    attemptTerminal execution.terminalState = some ended ∧
    recordedProvenance services layout plan execution = some provenance ∧
    Account layout plan IsTime ⟨execution.terminalState, execution.failure⟩
      ⟨ended, execution.failure⟩ events v ∧
    Holds layout (contentsOf (finalContents layout plan (executedContents layout
      (requestContents codec.formatFloat bytes plan) execution) execution validity
      (summarize plan execution validity layout.runId.text)) events
      (provenanceBytes (some provenance)) v) disk

/-- The inventory has been put in place. -/
def InventoryWritten (layout : Layout) (past : Past) : Prop :=
  ∃ attempt ∈ past, attempt.succeeded = true ∧ attempt.label =
    .change (.rename (layout.staging ++ [checksumTemporaryName])
      (layout.staging ++ [checksumFileName]))

/-- The verifier has looked at what the run has submitted, with this result. -/
def Judged (codec : Codec) (services : Services) (layout : Layout) (bytes : Bytes)
    (plan : ResolvedExperiment) (IsTime : String → Prop) (execution : ExecutionOutput)
    (judgement : Except EvidenceError EvidenceManifest) (w : DiskWorld) : Prop :=
  InventoryWritten layout w.history ∧
    ∃ look ∈ w.history, Submitted codec services layout bytes plan IsTime execution look.after ∧
      verifyEvidenceBundle codec layout.staging look.after = judgement

/-- How an allocated run fails on a working disk: the verifier rejects what it submits. -/
def Unverified (codec : Codec) (services : Services) (layout : Layout) (bytes : Bytes)
    (plan : ResolvedExperiment) (IsTime : String → Prop) (execution : ExecutionOutput)
    (failure : AllocatedFailure) (w : DiskWorld) : Prop :=
  failure.source.isLifecycle = true ∨
    ∃ source, failure = ⟨"verifying", .evidence source⟩ ∧
      Judged codec services layout bytes plan IsTime execution (.error source) w

/-- The verifier has accepted what the run has submitted. -/
def Approved (codec : Codec) (services : Services) (layout : Layout) (bytes : Bytes)
    (plan : ResolvedExperiment) (IsTime : String → Prop) (execution : ExecutionOutput)
    (w : DiskWorld) : Prop :=
  ∃ manifest, Judged codec services layout bytes plan IsTime execution (.ok manifest) w

section

variable {codec : Codec} {services : Services} {layout : Layout} {bytes : Bytes}
  {plan : ResolvedExperiment} {IsTime : String → Prop} {execution : ExecutionOutput}
  {contents : StagedFile → Option Bytes}

theorem Judged.mono {judgement : Except EvidenceError EvidenceManifest} {w w' : DiskWorld}
    (hmore : w.history ⊆ w'.history)
    (h : Judged codec services layout bytes plan IsTime execution judgement w) :
    Judged codec services layout bytes plan IsTime execution judgement w' := by
  obtain ⟨⟨attempt, hattempt, hplaced⟩, look, hmem, hlook⟩ := h
  exact ⟨⟨attempt, hmore hattempt, hplaced⟩, look, hmore hmem, hlook⟩

/-- The checksum files disturb neither the payloads nor the room for the publication. -/
theorem respects_checksums_vacant (layout : Layout) (contents : StagedFile → Option Bytes) :
    Respects [layout.staging ++ [checksumTemporaryName], layout.staging ++ [checksumFileName]]
      fun w => Vacant layout w.store ∧ Holds layout contents w.store := by
  have hapart : ∀ other ∈ {other | other = layout.finalPath ∨ other = layout.runsParent ∨
        ∃ file, other = layout.path file},
      ∀ path ∈ [layout.staging ++ [checksumTemporaryName], layout.staging ++ [checksumFileName]],
        ¬ path <+: other ∧ ¬ other <+: path := by
    intro other hother path hpath
    have hbelow : layout.staging <+: path := by
      simp only [List.mem_cons, List.not_mem_nil, or_false] at hpath
      rcases hpath with rfl | rfl
      · exact List.prefix_append _ _
      · exact List.prefix_append _ _
    -- neither file of the inventory is a record or a place outside the staging directory
    rcases hother with rfl | rfl | ⟨file, rfl⟩
    · exact layout.apart_finalPath hbelow
    · exact layout.apart_runsParent hbelow
    · simp only [List.mem_cons, List.not_mem_nil, or_false] at hpath
      rcases hpath with rfl | rfl
      · exact (layout.checksums_apart file).2
      · exact (layout.checksums_apart file).1
  refine respects_frame hapart
    (fun disk => Vacant layout disk ∧ Holds layout contents disk) ?_
  rintro disk disk' hsame ⟨⟨hfree, hparent⟩, hholds⟩
  refine ⟨⟨(hsame _ (Or.inl rfl)).trans hfree, ?_⟩,
    hholds.of_same fun file => hsame _ (Or.inr (Or.inr ⟨file, rfl⟩))⟩
  rw [hsame _ (Or.inr (Or.inl rfl))]
  exact hparent

/-- The inventory of a tidy staging directory is written. -/
theorem succeeds_writeInventory {failed : AllocatedFailure → DiskWorld → RunLocals → Prop} :
    Triple noFaults
      (fun w _ => (Vacant layout w.store ∧ Holds layout contents w.store) ∧ Ready layout w.store)
      (writeInventory codec layout)
      (fun _ w _ => (Vacant layout w.store ∧ Holds layout contents w.store) ∧
        (∃ d pending, d.Distinct ∧ Listable d ∧ OnlyPayloads d ∧
          WrittenInventory codec.hash layout.staging d pending w.store) ∧
        InventoryWritten layout w.history)
      failed := by
  apply Triple.mapError
  apply Triple.mapError
  rintro w v ⟨hbefore, hready⟩
  obtain ⟨d, hd⟩ := hready.exists_staging
  have hdistinct : d.Distinct := w.store.distinct.lookup hd
  have hlistable : Listable d := hready.listable hd
  have hkeeps : Keeps noFaults (fun w (_ : RunLocals) => Vacant layout w.store ∧
      Holds layout contents w.store) (writeChecksumFile codec.hash layout.staging) :=
    keeps_writeChecksumFile fun _ => respects_checksums_vacant layout contents
  have hsucceeds : Triple noFaults
      (fun w (_ : RunLocals) => w.store.lookup layout.staging = some (.directory d))
      (writeChecksumFile codec.hash layout.staging) (fun _ _ _ => True) (fun _ _ _ => False) :=
    succeeds_writeChecksumFile hdistinct hlistable
  -- the operation that placed it is remembered for the verification
  have hplaced : Triple noFaults (fun _ (_ : RunLocals) => True)
      (writeChecksumFile codec.hash layout.staging)
      (fun _ w _ => InventoryWritten layout w.history) (fun _ _ _ => True) :=
    triple_writeChecksumFile_placed
  refine ((hkeeps.and ((triple_writeChecksumFile.and hplaced).and hsucceeds)) w v
    ⟨hbefore, ⟨hd, trivial⟩, hd⟩).mono ?_ ?_
  · rintro pending w' _ ⟨hafter, ⟨hwritten, hinventory⟩, -⟩
    exact ⟨hafter, ⟨d, pending, hdistinct, hlistable, hready.onlyPayloads hd, hwritten⟩,
      hinventory⟩
  · rintro error w' _ ⟨-, -, hfalse⟩
    exact hfalse.elim

/-- The verifier judges what has been submitted and fails only by rejecting it. -/
theorem succeeds_verify :
    Triple noFaults
      (fun w _ => Submitted codec services layout bytes plan IsTime execution w.store ∧
        InventoryWritten layout w.history)
      (verify codec layout)
      (fun _ w (_ : RunLocals) =>
        Submitted codec services layout bytes plan IsTime execution w.store ∧
        Approved codec services layout bytes plan IsTime execution w)
      (fun failure w _ => ∃ source, failure = ⟨"verifying", .evidence source⟩ ∧
        Judged codec services layout bytes plan IsTime execution (.error source) w) := by
  apply Triple.mapError
  apply Triple.via (fun _ w _ =>
    Submitted codec services layout bytes plan IsTime execution w.store ∧
      Approved codec services layout bytes plan IsTime execution w)
  · apply Triple.mapError
    rintro w v ⟨h, attempt, hmem, hplaced⟩
    simp only [Disk.read, Program.perform, noFaults]
    -- either verdict is about the tree that was submitted
    cases hlook : verifyEvidenceBundle codec layout.staging w.store with
    | ok manifest =>
        exact ⟨h, manifest, ⟨attempt, List.mem_cons_of_mem _ hmem, hplaced⟩, _,
          List.mem_cons_self, h, hlook⟩
    | error source =>
        exact ⟨source, rfl, ⟨attempt, List.mem_cons_of_mem _ hmem, hplaced⟩, _,
          List.mem_cons_self, h, hlook⟩
  · intro _ w v h
    exact h

/-- The final name is free, so the staging directory takes it. -/
theorem succeeds_publish {inv : DiskWorld → Prop}
    (hinv : ∀ w w', w.history ⊆ w'.history → inv w → inv w')
    {failed : AllocatedFailure → DiskWorld → RunLocals → Prop} :
    Triple noFaults
      (fun w _ => inv w ∧ Vacant layout w.store ∧
        ∃ d, w.store.lookup layout.staging = some (.directory d))
      (publish layout) (fun _ w _ => inv w) failed := by
  have hapart := layout.staging_apart_finalPath
  apply Triple.mapError
  apply Triple.via (fun conflict w _ => conflict = false ∧ inv w ∧ Vacant layout w.store ∧
    ∃ d, w.store.lookup layout.staging = some (.directory d))
  · apply Disk.succeeds_pathExists
    rintro w v ⟨hkept, hvacant, hstaging⟩
    refine ⟨?_, hinv w _ (List.subset_cons_self _ _) hkept, hvacant, hstaging⟩
    rw [FileTree.exists, hvacant.1]
  intro conflict
  apply Triple.via (fun _ w _ => inv w ∧ Vacant layout w.store ∧
    ∃ d, w.store.lookup layout.staging = some (.directory d))
  · rintro w v ⟨rfl, h⟩
    exact h
  intro _
  apply Disk.succeeds_performAs
  rintro w v ⟨hkept, ⟨hfree, parent, hparent⟩, d, hstaging⟩
  -- nothing is in the way of the rename
  obtain ⟨tree, happly⟩ : ∃ tree,
      (FileOperation.rename layout.staging layout.finalPath).apply w.store = .ok tree :=
    FileTree.exists_rename hstaging hapart.1 hapart.2 hparent
      (show Change.replaceBy _ (w.store.lookup layout.finalPath) = .ok _ by rw [hfree]; rfl)
  exact ⟨tree, happly, hinv w _ (List.subset_cons_self _ _) hkept⟩

/-- From the terminal attempt to the published bundle. -/
theorem succeeds_publishEvidence {validity : ValidityResult} {ended : AttemptStatus}
    {provenance : AttemptProvenance} {source : RunState}
    (hclock : ∀ n, IsTime (services.clock n))
    (hterminal : execution.terminalState.isTerminal = true)
    (hprovenance : recordedProvenance services layout plan execution = some provenance)
    (hvalidity : evaluateValidity plan execution layout.runId.text = some validity)
    (hended : attemptTerminal execution.terminalState = some ended) :
    Triple noFaults
      (fun w v => Documented layout plan IsTime (fun w => Vacant layout w.store)
        (executedContents layout (requestContents codec.formatFloat bytes plan) execution)
        (some provenance) ⟨source, none⟩ ⟨ended, execution.failure⟩ w v ∧ Ready layout w.store)
      (publishEvidence codec services layout plan execution validity
        (summarize plan execution validity layout.runId.text))
      (fun _ w _ => Approved codec services layout bytes plan IsTime execution w)
      (fun failure w _ => Unverified codec services layout bytes plan IsTime execution failure
        w) := by
  refine Triple.andThen (((documented_finalize (undisturbed_vacant layout) hclock hterminal).and
    succeeds_finalize).failing fun failure w v h => Or.inl h.2) fun _ => ?_
  rintro w v ⟨hdocumented, hready⟩
  obtain ⟨events, haccount, hholds⟩ := hdocumented.holds
  refine (Triple.andThen succeeds_writeInventory fun pending => ?_) w v
    ⟨⟨hdocumented.kept, hholds⟩, hready⟩
  refine Triple.andThen (succeeds_verify.conseq ?_ (fun _ _ _ h => h) fun _ _ _ h => Or.inr h)
    fun _ => ?_
  · rintro w' v' ⟨⟨hvacant, hafter⟩, hinventory, hplaced⟩
    exact ⟨⟨hvacant, hinventory, validity, ended, provenance, events, v, hvalidity, hended,
      hprovenance, haccount, hafter⟩, hplaced⟩
  -- a verdict that was given stays given
  have happroved : ∀ w w' : DiskWorld, w.history ⊆ w'.history →
      Approved codec services layout bytes plan IsTime execution w →
      Approved codec services layout bytes plan IsTime execution w' := by
    rintro w w' hmore ⟨manifest, hjudged⟩
    exact ⟨manifest, hjudged.mono hmore⟩
  refine Triple.via (fun _ w _ => Approved codec services layout bytes plan IsTime execution w)
    ((succeeds_publish happroved).weaken ?_) fun _ _ _ h => h
  rintro w' v' ⟨hsubmitted, hlook⟩
  obtain ⟨d, pending, -, -, -, hwritten⟩ := hsubmitted.inventory
  exact ⟨hlook, hsubmitted.vacant, _, hwritten.placed⟩

/-- The phases up to the publication, then the publication. -/
theorem succeeds_attemptRun {kind : ExecutionKind} (hkind : IsExecutable plan kind)
    {createdAt : String} (htime : IsTime createdAt) (hclock : ∀ n, IsTime (services.clock n))
    (hexecution : executeRuntime codec services plan kind = execution) :
    Triple noFaults
      (fun w v => Shows layout (fun w => Vacant layout w.store) (fun _ => none)
        (initialLocals plan layout.runId.text createdAt) w v ∧ Fresh layout w.store)
      (attemptRun codec services layout bytes plan kind
        (Lifecycle.new layout.runId.text createdAt 1).2)
      (fun _ w _ => Approved codec services layout bytes plan IsTime execution w)
      (fun failure w _ => Unverified codec services layout bytes plan IsTime execution failure
        w) := by
  have hinv := undisturbed_vacant layout
  have hterminal : execution.terminalState.isTerminal = true :=
    hexecution ▸ executeRuntime_terminal
  obtain ⟨ended, hended⟩ := Option.isSome_iff_exists.mp (attemptTerminal_isSome hterminal)
  obtain ⟨provenance, hprovenance⟩ := @exists_recordedProvenance codec services layout plan kind hkind
  rw [hexecution] at hprovenance
  have hundone : ∀ (failure : AllocatedFailure) (w : DiskWorld) (v : RunLocals),
      Undone (fun w => Vacant layout w.store) failure w v ∧ OutOfOrder failure w v →
      Unverified codec services layout bytes plan IsTime execution failure w :=
    fun _ _ _ h => Or.inl h.2
  refine Triple.andThen (((documented_stageInitial hinv htime).and
    succeeds_stageInitial).failing hundone) fun _ => ?_
  refine Triple.andThen (((documented_prepare hinv hclock hkind).and
    (succeeds_prepare hkind)).failing hundone) fun captured => ?_
  rintro w v ⟨⟨hcapture, h⟩, hready⟩
  refine (?_ : Triple noFaults (fun w v => Documented layout plan IsTime
    (fun w => Vacant layout w.store) (requestContents codec.formatFloat bytes plan)
    (some captured) ⟨.preparing, none⟩ ⟨.preparing, none⟩ w v ∧ Ready layout w.store) _ _ _)
    w v ⟨h, hready⟩
  refine Triple.andThen (((documented_beginRunning hinv hclock).and
    succeeds_beginRunning).failing hundone) fun _ => ?_
  refine Triple.andThen (((documented_recordProvenance hinv hkind hcapture).and
    (succeeds_recordProvenance hkind hcapture)).failing hundone) fun _ => ?_
  rw [hexecution, hprovenance]
  refine Triple.andThen (((documented_endAttempt hinv hclock hended).and
    (succeeds_endAttempt hterminal)).failing hundone) fun _ => ?_
  refine Triple.andThen (((documented_recordResources hinv rfl).and
    succeeds_recordResources).failing hundone) fun _ => ?_
  refine Triple.andThen (((documented_recordMeasurements hinv rfl).and
    succeeds_recordMeasurements).failing hundone) fun _ => ?_
  rw [update_executedContents]
  refine Triple.andThen (((documented_collect hinv hclock).and
    succeeds_collect).failing hundone) fun _ => ?_
  -- a terminal state has a validity, so the expectation of the source is met
  refine Triple.via (fun validity w v =>
    evaluateValidity plan execution layout.runId.text = some validity ∧
      Documented layout plan IsTime (fun w => Vacant layout w.store) (executedContents layout
        (requestContents codec.formatFloat bytes plan) execution) (some provenance)
        ⟨collectedState execution, none⟩ ⟨ended, execution.failure⟩ w v ∧ Ready layout w.store)
    (Triple.orPanic (evaluateValidity_isSome hterminal) fun validity hvalidity w v h =>
      ⟨hvalidity, h⟩) fun validity => ?_
  rintro w v ⟨hvalidity, h⟩
  exact succeeds_publishEvidence hclock hterminal hprovenance hvalidity hended w v h

end

/-! ## The whole run -/

/-- Nothing is in the way of a run: what is there of its two parent directories are
directories, and its two own directories are not there. -/
structure Room (layout : Layout) (disk : FileTree) : Prop where
  parents : ∀ ancestor, ancestor <+: layout.stagingParent ∨ ancestor <+: layout.runsParent →
    disk.lookup ancestor = none ∨ ∃ d, disk.lookup ancestor = some (.directory d)
  staging : disk.lookup layout.staging = none
  finalPath : disk.lookup layout.finalPath = none

/-- The two parent directories. -/
structure RoomMade (layout : Layout) (disk : FileTree) : Prop where
  stagingParent : ∃ d, disk.lookup layout.stagingParent = some (.directory d)
  vacant : Vacant layout disk
  staging : disk.lookup layout.staging = none

/-- A condition on what has happened is not disturbed by what happens later. -/
theorem undisturbed_of_history {layout : Layout} {inv : DiskWorld → Prop}
    (h : ∀ w w', w.history ⊆ w'.history → inv w → inv w') : Undisturbed layout inv where
  respects _ _ :=
    { performed := fun w _ _ _ hinv _ _ _ => h w _ (List.subset_cons_self _ _) hinv
      refused := fun w _ hinv _ => h w _ (List.subset_cons_self _ _) hinv
      read := fun w _ hinv => h w _ (List.subset_cons_self _ _) hinv
      clock := fun w _ hinv => h w _ (List.Subset.refl _) hinv }
  ensured w _ _ hinv _ _ := h w _ (List.subset_cons_self _ _) hinv
  refused w _ hinv := h w _ (List.subset_cons_self _ _) hinv

theorem undisturbed_unverified {codec : Codec} {services : Services} {layout : Layout}
    {bytes : Bytes} {plan : ResolvedExperiment} {IsTime : String → Prop}
    {execution : ExecutionOutput} {failure : AllocatedFailure} :
    Undisturbed layout (Unverified codec services layout bytes plan IsTime execution failure) := by
  apply undisturbed_of_history
  intro w w' hmore hunverified
  rcases hunverified with hlifecycle | ⟨source, hfailure, hjudged⟩
  · exact Or.inl hlifecycle
  · exact Or.inr ⟨source, hfailure, hjudged.mono hmore⟩

section

variable {codec : Codec} {services : Services} {layout : Layout} {bytes : Bytes}
  {plan : ResolvedExperiment} {IsTime : String → Prop} {outputRoot : List FileName}

/-- The parent of the staging directory is made first. -/
theorem succeeds_createStagingParent {failed : RunError → DiskWorld → RunTrace → Prop} :
    Triple noFaults (fun w (_ : RunTrace) => Room layout w.store)
      (createDirectory layout.stagingParent)
      (fun _ w _ => ∃ disk, Room layout disk ∧ Opened layout.stagingParent disk w.store)
      failed := by
  intro w trace hroom
  have hcreate : Triple noFaults (fun w' (_ : RunTrace) => w'.store = w.store)
      (createDirectory layout.stagingParent)
      (fun _ w' _ => Opened layout.stagingParent w.store w'.store) failed :=
    Disk.succeeds_createDirAll fun ancestor h => hroom.parents ancestor (Or.inl h)
  exact (hcreate w trace rfl).mono (fun _ _ _ hopened => ⟨w.store, hroom, hopened⟩)
    fun _ _ _ h => h

/-- The parent of the final directory is made next to it. -/
theorem succeeds_createRunsParent {failed : RunError → DiskWorld → RunTrace → Prop} :
    Triple noFaults
      (fun w (_ : RunTrace) => ∃ disk, Room layout disk ∧
        Opened layout.stagingParent disk w.store)
      (createDirectory layout.runsParent) (fun _ w _ => RoomMade layout w.store) failed := by
  rintro w trace ⟨disk, hroom, hopened⟩
  -- neither parent is on the way to the other
  have hlengths : layout.stagingParent.length = layout.runsParent.length := by
    simp [Layout.stagingParent, Layout.runsParent]
  have hne : layout.stagingParent ≠ layout.runsParent := by
    intro hsame
    have hlast := List.append_cancel_left hsame
    exact absurd hlast (by decide)
  have hcreate : Triple noFaults (fun w' (_ : RunTrace) => w'.store = w.store)
      (createDirectory layout.runsParent)
      (fun _ w' _ => Opened layout.runsParent w.store w'.store) failed := by
    apply Disk.succeeds_createDirAll
    intro ancestor hancestor
    by_cases hshared : ancestor <+: layout.stagingParent
    · exact Or.inr (hopened.directories ancestor hshared)
    · rw [hopened.others ancestor hshared]
      exact hroom.parents ancestor (Or.inr hancestor)
  refine (hcreate w trace rfl).mono ?_ fun _ _ _ h => h
  intro _ w' _ hmade
  have hlong : ∀ path, layout.stagingParent.length < path.length →
      w'.store.lookup path = disk.lookup path := by
    intro path hlong
    rw [hmade.others, hopened.others]
    · intro hprefix
      have hshort := hprefix.length_le
      omega
    · intro hprefix
      have hshort := hprefix.length_le
      omega
  refine ⟨?_, ⟨?_, hmade.directories _ List.prefix_rfl⟩, ?_⟩
  · obtain ⟨d, hd⟩ := hopened.directories layout.stagingParent List.prefix_rfl
    refine ⟨d, (hmade.others _ ?_).trans hd⟩
    exact fun hstarts => hne (hstarts.eq_of_length hlengths)
  · rw [hlong _ (by rw [Layout.finalPath, List.length_append, hlengths]; simp)]
    exact hroom.finalPath
  · rw [hlong _ (by rw [Layout.staging, List.length_append]; simp)]
    exact hroom.staging

/-- The staging directory is made. -/
theorem succeeds_createStaging {failed : RunError → DiskWorld → RunTrace → Prop} :
    Triple noFaults (fun w (_ : RunTrace) => RoomMade layout w.store)
      (createNewDirectory layout.staging)
      (fun _ w _ => Vacant layout w.store ∧ Fresh layout w.store) failed := by
  apply Disk.succeeds_performAs
  intro w trace h
  obtain ⟨d, hd⟩ := h.stagingParent
  obtain ⟨tree, happly⟩ : ∃ tree,
      (FileOperation.createDirectory layout.staging).apply w.store = .ok tree :=
    FileTree.exists_createDirectory hd h.staging
  have hstaged : ∀ path ∈ [layout.staging], layout.IsStaged path := by
    intro path hpath
    exact Or.inl (List.mem_singleton.mp hpath)
  refine ⟨tree, happly, ?_, (FileTree.lookup_createDirectory_self happly).2⟩
  exact ((undisturbed_vacant layout).respects _ hstaged).performed w
    (.change (.createDirectory layout.staging)) (.createDirectory layout.staging) tree h.vacant rfl
    (fun _ hpath => hpath) happly

/-- An accepted request on a working disk with room. -/
theorem succeeds_acceptedRun {kind : ExecutionKind} (hkind : IsExecutable plan kind)
    (hclock : ∀ n, IsTime (services.clock n)) :
    Triple noFaults
      (fun w trace => Room (services.layout outputRoot) w.store ∧ trace.idsDrawn = 0)
      (acceptedRun codec services outputRoot bytes plan kind)
      (fun _ w _ => Approved codec services (services.layout outputRoot) bytes plan IsTime
        (executeRuntime codec services plan kind) w)
      (fun error w _ => ∃ failure, Unverified codec services (services.layout outputRoot) bytes
          plan IsTime (executeRuntime codec services plan kind) failure w ∧
        error = .allocated (services.layout outputRoot).runId.text failure.phase
          (displayPath (services.layout outputRoot).staging) failure.source) := by
  unfold acceptedRun
  refine Triple.via (fun runId w _ => runId = services.nextRunId 0 ∧
    Room (services.layout outputRoot) w.store) ?_ fun runId => ?_
  · rintro w trace ⟨h, hfirst⟩
    refine ⟨?_, h⟩
    rw [← hfirst]
  rintro w trace ⟨rfl, h⟩
  refine (?_ : Triple noFaults (fun w _ => Room (services.layout outputRoot) w.store) _ _ _)
    w trace h
  refine Triple.andThen succeeds_createStagingParent fun _ => ?_
  refine Triple.andThen succeeds_createRunsParent fun _ => ?_
  refine Triple.andThen succeeds_createStaging fun _ => ?_
  refine Triple.via (fun createdAt w _ => IsTime createdAt ∧
      Vacant (services.layout outputRoot) w.store ∧ Fresh (services.layout outputRoot) w.store)
    (Triple.now fun w trace h => ⟨hclock _, h⟩) fun createdAt => ?_
  apply Triple.nested
  intro trace
  rintro w v ⟨rfl, htime, hvacant, hfresh⟩
  -- a new directory holds no record
  have hempty : Holds (services.layout outputRoot) (fun _ => none) w.store := by
    intro file
    rw [Layout.path, FileTree.lookup_append, hfresh]
    cases file <;> rfl
  refine (Triple.recover (succeeds_attemptRun hkind htime hclock rfl) fun failure => ?_) w _
    ⟨⟨rfl, hvacant, hempty⟩, hfresh⟩
  refine Triple.via (fun _ w _ => Unverified codec services (services.layout outputRoot) bytes
    plan IsTime (executeRuntime codec services plan kind) failure w)
    (triple_cleanup undisturbed_unverified) fun _ w v h => ?_
  exact ⟨failure, h, rfl⟩

end

/-- How the run of an accepted request on a working disk ends: with the judgement of the
verifier on what it has submitted. -/
theorem meets_working {codec : Codec} {services : Services} {outputRoot : List FileName}
    {bytes : Bytes} {disk : FileTree} {plan : ResolvedExperiment} {kind : ExecutionKind}
    {IsTime : String → Prop} (haccept : acceptRequest codec services bytes = .ok (plan, kind))
    (hclock : ∀ n, IsTime (services.clock n)) (hroom : Room (services.layout outputRoot) disk) :
    (runOn codec services outputRoot bytes noFaults disk).Meets
      (fun _ w _ => Approved codec services (services.layout outputRoot) bytes plan IsTime
        (executeRuntime codec services plan kind) w)
      (fun error w _ => ∃ source, error = .allocated (services.nextRunId 0).text "verifying"
          (displayPath (services.layout outputRoot).staging) (.evidence source) ∧
        Judged codec services (services.layout outputRoot) bytes plan IsTime
          (executeRuntime codec services plan kind) (.error source) w) := by
  have hend := (@succeeds_acceptedRun codec services bytes plan IsTime outputRoot kind
    (isExecutable_of_acceptRequest haccept) hclock) ⟨disk, 0, []⟩ ⟨0, []⟩ ⟨hroom, rfl⟩
  have hsound := meets_runOn noFaults codec services outputRoot bytes disk
  rw [runOn_of_accepted haccept] at hsound ⊢
  unfold Ended.Meets at hend hsound ⊢
  split at hend
  · exact hend
  · rename_i error herror
    rw [herror] at hsound
    obtain ⟨failure, hfailure, rfl⟩ := hend
    -- a run does not fail in its lifecycle
    rcases hfailure with hlifecycle | ⟨source, rfl, hjudged⟩
    · have hsteady : failure.source.isLifecycle = false := hsound.2.1
      rw [hsteady] at hlifecycle
      contradiction
    · exact ⟨source, rfl, hjudged⟩
  · exact hend.elim

/-- On a working disk with room for it, a run publishes its evidence, is rejected with the disk
never touched, or ends in `verifying` with what the verifier has against the staged evidence. -/
theorem runOn_working (codec : Codec) (services : Services) (outputRoot : List FileName)
    (bytes : Bytes) (disk : FileTree) (hroom : Room (services.layout outputRoot) disk) :
    (∃ result, (runOn codec services outputRoot bytes noFaults disk).outcome = .ok result) ∨
    (∃ error, (runOn codec services outputRoot bytes noFaults disk).outcome = .error error ∧
      error.isRequestRejection = true ∧
      (runOn codec services outputRoot bytes noFaults disk).world = ⟨disk, 0, []⟩) ∨
    ∃ source, (runOn codec services outputRoot bytes noFaults disk).outcome =
        .error (.allocated (services.nextRunId 0).text "verifying"
          (displayPath (services.layout outputRoot).staging) (.evidence source)) ∧
      ∃ look ∈ (runOn codec services outputRoot bytes noFaults disk).world.history,
        verifyEvidenceBundle codec (services.layout outputRoot).staging look.after =
          .error source := by
  cases haccept : acceptRequest codec services bytes with
  | error error =>
      rw [runOn_of_rejected haccept]
      exact Or.inr (Or.inl ⟨error, rfl, acceptRequest_eq_error haccept, rfl⟩)
  | ok request =>
      obtain ⟨plan, kind⟩ := request
      have hend := @meets_working codec services outputRoot bytes disk plan kind (fun _ => True)
        haccept (fun _ => trivial) hroom
      unfold Ended.Meets at hend
      split at hend
      · rename_i result hresult
        exact Or.inl ⟨result, hresult⟩
      · rename_i error herror
        -- the verifier's objection is the only failure that is left
        obtain ⟨source, rfl, -, look, hmem, -, hrejected⟩ := hend
        exact Or.inr (Or.inr ⟨source, herror, look, hmem, hrejected⟩)
      · exact hend.elim

/-- There is room for the sample run where neither of its two parents is there. -/
theorem SampleRun.room_of_absent {disk : FileTree}
    (hstaging : disk.lookup (services.layout []).stagingParent = none)
    (hruns : disk.lookup (services.layout []).runsParent = none) :
    Room (services.layout []) disk where
  parents ancestor hancestor := by
    cases ancestor with
    | nil => exact Or.inr ⟨_, rfl⟩
    | cons name rest =>
        rcases hancestor with h | h
        · obtain ⟨rfl, hrest⟩ := List.cons_prefix_cons.mp h
          rw [List.prefix_nil.mp hrest]
          exact Or.inl hstaging
        · obtain ⟨rfl, hrest⟩ := List.cons_prefix_cons.mp h
          rw [List.prefix_nil.mp hrest]
          exact Or.inl hruns
  staging := FileTree.lookup_below_none hstaging (List.prefix_append _ _)
  finalPath := FileTree.lookup_below_none hruns (List.prefix_append _ _)

theorem SampleRun.room : Room (services.layout []) .empty := room_of_absent rfl rfl

theorem runOn_working_sample :
    (∃ result, (runOn SampleRun.codec SampleRun.services [] (utf8 SampleRun.document) noFaults
      .empty).outcome = .ok result) ∨
    (∃ error, (runOn SampleRun.codec SampleRun.services [] (utf8 SampleRun.document) noFaults
        .empty).outcome = .error error ∧ error.isRequestRejection = true ∧
      (runOn SampleRun.codec SampleRun.services [] (utf8 SampleRun.document) noFaults
        .empty).world = ⟨.empty, 0, []⟩) ∨
    ∃ source, (runOn SampleRun.codec SampleRun.services [] (utf8 SampleRun.document) noFaults
        .empty).outcome = .error (.allocated (SampleRun.services.nextRunId 0).text "verifying"
          (displayPath (SampleRun.services.layout []).staging) (.evidence source)) ∧
      ∃ look ∈ (runOn SampleRun.codec SampleRun.services [] (utf8 SampleRun.document) noFaults
          .empty).world.history,
        verifyEvidenceBundle SampleRun.codec (SampleRun.services.layout []).staging look.after =
          .error source :=
  runOn_working _ _ _ _ _ SampleRun.room

end Benchplane
