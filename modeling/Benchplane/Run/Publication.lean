import Benchplane.Evidence.Acceptance
import Benchplane.Run.StagedTree

/-!
# Publication

A run publishes what the verifier accepted in the staging directory, and reports the
values of the published records, or it leaves the final directory as it was.
-/

namespace Benchplane

open Library

/-! ## How a run ends -/

/-- The result carries the values of the records in a bundle. -/
structure DescribesBundle (codec : Codec) (layout : Layout) (result : RunResult)
    (d : Directory) : Prop where
  manifest : ∃ manifest : EvidenceManifest,
    d.lookup StagedFile.manifest.path = some (.file (jsonBytes manifest.toJson)) ∧
      result.runId = manifest.runId ∧ result.runState = manifest.runStatus ∧
      result.validityStatus = manifest.validityStatus ∧
      result.attemptCount = manifest.attemptCount ∧
      result.experimentDigest = manifest.experimentDigest ∧
      result.resolvedPlanDigest = manifest.resolvedPlanDigest
  summary : ∃ summary : RunSummary,
    d.lookup StagedFile.summary.path = some (.file (jsonBytes summary.toJson)) ∧
      result.runId = summary.runId ∧ result.runState = summary.runStatus ∧
      result.validityStatus = summary.validityStatus ∧
      result.attemptCount = summary.attemptCount ∧ result.sampleCount = summary.sampleCount ∧
      result.latency = summary.latency ∧
      result.meanThroughputMilliRequestsPerSecond =
        summary.meanThroughputMilliRequestsPerSecond ∧
      result.experimentDigest = summary.experimentDigest ∧
      result.resolvedPlanDigest = summary.resolvedPlanDigest
  resources : d.lookup StagedFile.resources.path = result.resources.map fun resources =>
    .file (jsonBytes (attemptResources layout.runId.text resources).toJson)
  inventory : ∃ sums, d.lookup [checksumFileName] = some (.file sums) ∧
    result.evidenceDigest = sha256Digest codec.hash sums

/-- The verifier has accepted the staging directory when it was the given one. -/
def WasVerified (codec : Codec) (layout : Layout) (d : Directory) (past : Past) : Prop :=
  ∃ look ∈ past, look.succeeded = true ∧
    look.after.lookup layout.staging = some (.directory d) ∧
    ∃ manifest, verifyEvidenceBundle codec layout.staging look.after = .ok manifest

theorem WasVerified.cons {codec : Codec} {layout : Layout} {d : Directory} {past : Past}
    (h : WasVerified codec layout d past) (attempt : Attempt FileTree Operation) :
    WasVerified codec layout d (attempt :: past) := by
  obtain ⟨look, hmem, hlook⟩ := h
  exact ⟨look, List.mem_cons_of_mem _ hmem, hlook⟩

/-- The staging directory, as the verifier accepted it, has become the final one. -/
structure Published (codec : Codec) (layout : Layout) (result : RunResult) (d : Directory)
    (w : DiskWorld) : Prop where
  moved : w.store.lookup layout.finalPath = some (.directory d)
  gone : w.store.lookup layout.staging = none
  verified : WasVerified codec layout d w.history
  described : DescribesBundle codec layout result d

/-- The three ways in which a run may end. -/
def EndsAtomically (codec : Codec) (layout : Layout) (disk : FileTree)
    (ended : Ended FileTree Operation RunTrace RunError RunResult) : Prop :=
  match ended.outcome with
  | .ok result => ∃ d, Published codec layout result d ended.world
  | .error error =>
      if error.isRequestRejection then
        ended.locals.idsDrawn = 0 ∧ ended.world.store = disk ∧ ended.world.history = []
      else ended.world.store.lookup layout.finalPath = disk.lookup layout.finalPath
  | .panic => False

/-! ## From the terminal attempt to the final directory -/

section

variable {faults : Faults} {codec : Codec} {services : Services} {layout : Layout}
  {bytes : Bytes} {plan : ResolvedExperiment} {before : Option Node}
  {contents : StagedFile → Option Bytes}

/-- The staging directory with its inventory, while the final directory is as before. -/
def Inventoried (layout : Layout) (before : Option Node) (contents : StagedFile → Option Bytes)
    (sums : Bytes) (d : Directory) (disk : FileTree) : Prop :=
  disk.lookup layout.finalPath = before ∧ disk.lookup layout.staging = some (.directory d) ∧
    (∀ file : StagedFile, d.lookup file.path = (contents file).map Node.file) ∧
    d.lookup [checksumFileName] = some (.file sums)

/-- The checksum files are next to the payloads. -/
theorem respects_checksums (layout : Layout) :
    Respects [layout.staging ++ [checksumTemporaryName], layout.staging ++ [checksumFileName]]
      fun w => w.store.lookup layout.finalPath = before ∧ Holds layout contents w.store := by
  have hapart : ∀ other ∈ {other | other = layout.finalPath ∨ ∃ file, other = layout.path file},
      ∀ path ∈ [layout.staging ++ [checksumTemporaryName], layout.staging ++ [checksumFileName]],
        ¬ path <+: other ∧ ¬ other <+: path := by
    intro other hother path hpath
    simp only [List.mem_cons, List.not_mem_nil, or_false] at hpath
    rcases hother with rfl | ⟨file, rfl⟩
    · apply layout.apart_finalPath
      rcases hpath with rfl | rfl
      · exact List.prefix_append _ _
      · exact List.prefix_append _ _
    · rcases hpath with rfl | rfl
      · exact (layout.checksums_apart file).2
      · exact (layout.checksums_apart file).1
  refine respects_frame hapart
    (fun disk => disk.lookup layout.finalPath = before ∧ Holds layout contents disk) ?_
  rintro disk disk' hsame ⟨hbefore, hholds⟩
  exact ⟨(hsame _ (Or.inl rfl)).trans hbefore,
    hholds.of_same fun file => hsame _ (Or.inr ⟨file, rfl⟩)⟩

/-- The inventory is written next to the payloads. -/
theorem triple_writeInventory {file : StagedFile} {content : Bytes}
    (hfile : contents file = some content) :
    Triple faults
      (fun w (_ : RunLocals) =>
        w.store.lookup layout.finalPath = before ∧ Holds layout contents w.store)
      (writeInventory codec layout)
      (fun pending w _ => ∃ d, Inventoried layout before contents pending.absorbed d w.store)
      (Undone fun w => w.store.lookup layout.finalPath = before) := by
  apply Triple.mapError
  apply Triple.mapError
  rintro w v ⟨hbefore, hholds⟩
  obtain ⟨d, hd⟩ := hholds.exists_directory hfile
  -- the records are kept, and the directory is the one the inventory was written over
  have hkeeps : Keeps faults (fun w (_ : RunLocals) =>
      w.store.lookup layout.finalPath = before ∧ Holds layout contents w.store)
      (writeChecksumFile codec.hash layout.staging) :=
    keeps_writeChecksumFile fun _ => respects_checksums layout
  refine ((hkeeps.and triple_writeChecksumFile) w v ⟨⟨hbefore, hholds⟩, hd⟩).mono ?_ ?_
  · rintro pending w' _ ⟨⟨hbefore', hholds'⟩, hwritten⟩
    refine ⟨_, hbefore', hwritten.placed, fun file => hholds'.lookup_directory hwritten.placed
      file, ?_⟩
    have hne : checksumFileName ≠ checksumTemporaryName := by decide
    rw [Directory.lookup_singleton, writtenTree, Directory.find?_erase_ne hne,
      Directory.find?_put_self]
  · rintro error w' _ ⟨⟨hbefore', -⟩, -⟩
    exact hbefore'

/-- The verifier looks at the staging directory once. -/
theorem triple_verify {sums : Bytes} {d : Directory} :
    Triple faults (fun w (_ : RunLocals) => Inventoried layout before contents sums d w.store)
      (verify codec layout)
      (fun _ w _ => Inventoried layout before contents sums d w.store ∧
        WasVerified codec layout d w.history)
      (Undone fun w => w.store.lookup layout.finalPath = before) := by
  apply Triple.mapError
  refine Triple.andThen (Triple.mapError (Disk.triple_read ?_ ?_ ?_)) fun _ w v h => h
  · intro w v manifest h hlook
    exact ⟨h, _, List.mem_cons_self, rfl, h.2.1, manifest, hlook⟩
  · intro w v fault h
    exact h.1
  · intro w v error h _
    exact h.1

/-- Publishing renames the staging directory. -/
theorem triple_publish {sums : Bytes} {d : Directory} :
    Triple faults
      (fun w (_ : RunLocals) => Inventoried layout before contents sums d w.store ∧
        WasVerified codec layout d w.history)
      (publish layout)
      (fun _ w _ => w.store.lookup layout.finalPath = some (.directory d) ∧
        w.store.lookup layout.staging = none ∧ WasVerified codec layout d w.history)
      (Undone fun w => w.store.lookup layout.finalPath = before) := by
  apply Triple.mapError
  -- a look at the final directory changes nothing
  refine Triple.via (fun _ w _ => Inventoried layout before contents sums d w.store ∧
    WasVerified codec layout d w.history) ?_ fun conflict => ?_
  · refine Triple.recover (Disk.triple_read ?_ ?_ ?_) fun _ w v h => h
    · intro w v found h _
      exact ⟨h.1, h.2.cons _⟩
    · intro w v fault h
      exact ⟨h.1, h.2.cons _⟩
    · intro w v error h _
      exact ⟨h.1, h.2.cons _⟩
  refine Triple.via (fun _ w _ => Inventoried layout before contents sums d w.store ∧
    WasVerified codec layout d w.history) (Triple.when (fun _ w v h => h.1.1) fun _ _ _ h => h)
    fun _ => ?_
  apply Disk.triple_performAs
  · intro w v tree h happly
    have hapart := layout.staging_apart_finalPath
    -- the rename moves the verified directory as it is
    obtain ⟨hmoved, hgone⟩ := FileTree.lookup_rename happly hapart.ne hapart.2
    exact ⟨hmoved.trans h.1.2.1, hgone, h.2.cons _⟩
  · intro w v e h
    exact h.1.1

/-- The result tells what the staged records say. -/
theorem describesBundle_of_inventoried {executed : StagedFile → Option Bytes}
    {execution : ExecutionOutput} {validity : ValidityResult} {events : List LifecycleEvent}
    {provenance : Option Bytes} {v : RunLocals} {pending : PendingEvidenceDigest}
    {d : Directory} {disk : FileTree}
    (hresources : executed .resources = execution.resources.map fun resources =>
      jsonBytes (attemptResources layout.runId.text resources).toJson)
    (h : Inventoried layout before (contentsOf (finalContents layout plan executed execution
      validity (summarize plan execution validity layout.runId.text)) events provenance v)
      pending.absorbed d disk) :
    DescribesBundle codec layout (publishedResult codec layout plan execution validity
      (summarize plan execution validity layout.runId.text) pending) d := by
  obtain ⟨-, -, hfiles, hsums⟩ := h
  constructor
  case manifest =>
    exact ⟨evidenceManifest plan layout.runId.text execution.terminalState validity.status,
      hfiles .manifest, rfl, rfl, rfl, rfl, rfl, rfl⟩
  case summary =>
    exact ⟨summarize plan execution validity layout.runId.text, hfiles .summary, rfl, rfl, rfl,
      rfl, rfl, rfl, rfl, rfl, rfl⟩
  case resources =>
    have hfile : d.lookup StagedFile.resources.path = (executed .resources).map Node.file :=
      hfiles .resources
    rw [hfile, hresources, Option.map_map]
    rfl
  case inventory => exact ⟨pending.absorbed, hsums, rfl⟩

/-- The publication ends with the verified bundle in place, or leaves the final directory. -/
theorem triple_publishEvidence {execution : ExecutionOutput} {validity : ValidityResult}
    {executed : StagedFile → Option Bytes} {state : RunState} {status : AttemptStatus}
    (hresources : executed .resources = execution.resources.map fun resources =>
      jsonBytes (attemptResources layout.runId.text resources).toJson) :
    Triple faults
      (Staged layout plan (fun w => w.store.lookup layout.finalPath = before) executed state
        status)
      (publishEvidence codec services layout plan execution validity
        (summarize plan execution validity layout.runId.text))
      (fun result w _ => ∃ d, Published codec layout result d w)
      (Undone fun w => w.store.lookup layout.finalPath = before) := by
  have hinv := undisturbed_finalPath layout before
  refine Triple.andThen (staged_finalize hinv) fun _ => ?_
  intro w v hstaged
  obtain ⟨events, provenance, -, hholds⟩ := hstaged.holds
  refine (?_ : Triple faults (fun w _ => w.store.lookup layout.finalPath = before ∧
    Holds layout (contentsOf (finalContents layout plan executed execution validity
      (summarize plan execution validity layout.runId.text)) events provenance v) w.store) _ _ _)
    w v ⟨hstaged.kept, hholds⟩
  have hjournal : contentsOf (finalContents layout plan executed execution validity
      (summarize plan execution validity layout.runId.text)) events provenance v .events =
      some (journalBytes events) := rfl
  refine Triple.andThen (triple_writeInventory hjournal) fun pending => ?_
  apply Triple.exists
  intro d
  refine Triple.andThen triple_verify fun _ => ?_
  -- what the inventory says of the directory survives the rename
  intro w v ⟨hinventoried, hverified⟩
  have hdescribed : DescribesBundle codec layout (publishedResult codec layout plan execution
      validity (summarize plan execution validity layout.runId.text) pending) d :=
    describesBundle_of_inventoried hresources hinventoried
  refine (Triple.andThen triple_publish fun _ => ?_) w v ⟨hinventoried, hverified⟩
  intro w v ⟨hmoved, hgone, hlooked⟩
  exact ⟨d, hmoved, hgone, hlooked, hdescribed⟩

end

/-! ## Every run -/

/-- An accepted run publishes, or it leaves the final directory as it was. -/
theorem triple_acceptedRun_publishes {faults : Faults} {codec : Codec} {services : Services}
    {outputRoot : List FileName} {bytes : Bytes} {plan : ResolvedExperiment}
    {kind : ExecutionKind} (hkind : IsExecutable plan kind) (disk : FileTree) :
    Triple faults
      (fun w trace => w.store.lookup (services.layout outputRoot).finalPath =
        disk.lookup (services.layout outputRoot).finalPath ∧ trace.idsDrawn = 0)
      (acceptedRun codec services outputRoot bytes plan kind)
      (fun result w _ => ∃ d, Published codec (services.layout outputRoot) result d w)
      (fun error w _ => error.isRequestRejection = false ∧
        w.store.lookup (services.layout outputRoot).finalPath =
          disk.lookup (services.layout outputRoot).finalPath) := by
  -- up to the rename the final directory is out of reach
  have hinv := undisturbed_finalPath (services.layout outputRoot)
    (disk.lookup (services.layout outputRoot).finalPath)
  apply triple_acceptedRun hinv
  intro createdAt
  apply staged_attemptRun hinv hkind rfl
  intro validity ended _ _
  exact triple_publishEvidence rfl

theorem triple_runExperiment_endsAtomically (faults : Faults) (codec : Codec)
    (services : Services) (outputRoot : List FileName) (bytes : Bytes) (disk : FileTree) :
    Triple faults
      (fun w trace => w.store = disk ∧ w.history = [] ∧ trace.idsDrawn = 0)
      (runExperiment codec services outputRoot bytes)
      (fun result w _ => ∃ d, Published codec (services.layout outputRoot) result d w)
      (fun error w trace =>
        if error.isRequestRejection then
          trace.idsDrawn = 0 ∧ w.store = disk ∧ w.history = []
        else w.store.lookup (services.layout outputRoot).finalPath =
          disk.lookup (services.layout outputRoot).finalPath) := by
  unfold runExperiment
  refine Triple.via (fun request w trace => IsExecutable request.1 request.2 ∧
      w.store = disk ∧ trace.idsDrawn = 0) (Triple.ofExcept ?_ ?_) fun request => ?_
  · rintro ⟨plan, kind⟩ haccept w trace ⟨hstore, -, hdrawn⟩
    exact ⟨isExecutable_of_acceptRequest haccept, hstore, hdrawn⟩
  · intro error herror w trace h
    rw [if_pos (acceptRequest_eq_error herror)]
    exact ⟨h.2.2, h.1, h.2.1⟩
  obtain ⟨plan, kind⟩ := request
  intro w trace ⟨hkind, hstore, hdrawn⟩
  refine (triple_acceptedRun_publishes hkind disk w trace ⟨hstore ▸ rfl, hdrawn⟩).mono (fun _ _ _ h => h) ?_
  intro error w trace h
  rw [if_neg (by simp [h.1])]
  exact h.2

/-- A run is rejected with nothing done, publishes what was verified, or fails with the
final directory as it was. -/
theorem runOn_endsAtomically (faults : Faults) (codec : Codec) (services : Services)
    (outputRoot : List FileName) (bytes : Bytes) (disk : FileTree) :
    EndsAtomically codec (services.layout outputRoot) disk
      (runOn codec services outputRoot bytes faults disk) := by
  have hend := triple_runExperiment_endsAtomically faults codec services outputRoot bytes disk
    ⟨disk, 0, []⟩ ⟨0, []⟩ ⟨rfl, rfl, rfl⟩
  unfold Ended.Meets at hend
  unfold EndsAtomically runOn
  split at hend
  · rename_i result hresult
    rw [hresult]
    exact hend
  · rename_i error herror
    rw [herror]
    exact hend
  · exact hend.elim

end Benchplane
