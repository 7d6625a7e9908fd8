import Benchplane.Run.WorkingRun

/-!
# The verifier agrees with the producer

When the inventory of a run is put in place, the records in the staging directory pass
the verifier's checks on them, for every execution in process and every failed one.
-/

namespace Benchplane

open Library

/-! ## The record checks -/

/-- A payload is the encoding of a record with a property. -/
def BundleRoot.Encodes {α : Type} (root : BundleRoot) (encode : α → Json) (path : String)
    (good : α → Prop) : Prop :=
  ∃ record, root.fileAt path = some (jsonBytes (encode record)) ∧ good record

/-- The verifier's checks on the measurements and on the other records of a bundle.  What
it would decode are the records that were encoded. -/
structure PassesRecordChecks (codec : Codec) (plan : ResolvedExperiment)
    (manifest : TerminalManifest) (validation : MeasurementValidation) (root : BundleRoot) :
    Prop where
  accepted : root.Encodes EvidenceManifest.toJson "manifest.json"
    (validateManifest · = .ok manifest)
  measurements : ∃ content, root.fileAt "attempts/0001/measurements.jsonl" = some content ∧
    validateMeasurements codec root (codec.hash content).hex plan manifest.runStatus =
      .ok validation
  run : root.Encodes RunRecord.toJson "run.json" (matchesRun · manifest = true)
  attempt : root.Encodes AttemptRecord.toJson "attempts/0001/attempt.json"
    (matchesAttempt · manifest = true)
  validity : root.Encodes ValidityResult.toJson "validity.json"
    (matchesValidity · manifest plan validation.measuredRecords = true)
  summary : root.Encodes RunSummary.toJson "summary.json" (matchesSummary · manifest validation)
  events : ∃ (content : Bytes) (events : List LifecycleEvent),
    root.fileAt "events.jsonl" = some content ∧
    eventLines content = events.map (fun event => toVec event.toJson) ∧
    ∀ event ∈ events, event.runId = manifest.runId ∧ event.attemptNumber = 1

/-- The inventory has just been put in place. -/
def InventoryPlaced (layout : Layout) (past : Past) : Prop :=
  ∃ attempt older, past = attempt :: older ∧ attempt.succeeded = true ∧
    attempt.label = .change (.rename (layout.staging ++ [checksumTemporaryName])
      (layout.staging ++ [checksumFileName]))

/-- The staging directory passes the record checks. -/
def StagedPasses (codec : Codec) (layout : Layout) (plan : ResolvedExperiment)
    (disk : FileTree) : Prop :=
  ∃ root manifest validation, canonicalBundleRoot layout.staging disk = .ok root ∧
    manifest.runId = layout.runId.text ∧ PassesRecordChecks codec plan manifest validation root

/-- Whenever the inventory is put in place, the staging directory passes. -/
def AgreesThroughout (codec : Codec) (layout : Layout) (plan : ResolvedExperiment)
    (past : Past) : Prop :=
  Throughout (fun disk past => InventoryPlaced layout past → StagedPasses codec layout plan disk)
    past

section

variable {faults : Faults} {codec : Codec} {services : Services} {layout : Layout}
  {plan : ResolvedExperiment} {e : Experiment} {kind : ExecutionKind}
  {execution : ExecutionOutput} {validity : ValidityResult} {disk : FileTree}

/-- The payloads of a staging directory as files of a bundle. -/
theorem Holds.exists_root {contents : StagedFile → Option Bytes}
    (h : Holds layout contents disk) {file : StagedFile} {bytes : Bytes}
    (hfile : contents file = some bytes) :
    ∃ root, canonicalBundleRoot layout.staging disk = .ok root ∧
      ∀ file content, contents file = some content →
        root.fileAt (StagedFile.display file) = some content := by
  obtain ⟨d, hd⟩ := h.exists_directory hfile
  obtain ⟨root, hroot, htree⟩ := exists_canonicalBundleRoot hd
  refine ⟨root, hroot, fun other content hother => ?_⟩
  rw [root.fileAt_display, htree]
  have hlookup := h.lookup_directory hd other
  rw [hother] at hlookup
  exact hlookup

/-- The staging directory of a finalized run passes the record checks. -/
theorem stagedPasses_of_holds {executed : StagedFile → Option Bytes}
    {events : List LifecycleEvent} {provenance : Option Bytes} {v : RunLocals}
    {warmups measured : UInt32} {generator : String} {ended : AttemptStatus}
    (hplan : resolveExperiment codec e = .ok plan)
    (hfit : MeasurementsFit codec plan execution.terminalState warmups measured generator
      execution.measurements)
    (hmeasurements : executed .measurements = some (measurementLines execution.measurements))
    (hvalidity : evaluateValidity plan execution layout.runId.text = some validity)
    (hended : attemptTerminal execution.terminalState = some ended)
    (hidentified : Identified layout plan v)
    (hstate : v.runRecord.runStatus = execution.terminalState)
    (hstatus : v.attemptRecord.status = ended) (hevents : OwnEvents layout events)
    (hholds : Holds layout (contentsOf (finalContents layout plan executed execution validity
      (summarize plan execution validity layout.runId.text)) events provenance v) disk) :
    StagedPasses codec layout plan disk := by
  have hterminal : execution.terminalState.isTerminal = true := by
    generalize execution.terminalState = state at hended
    cases state <;> first | rfl | contradiction
  have hjournal : contentsOf (finalContents layout plan executed execution validity
      (summarize plan execution validity layout.runId.text)) events provenance v .events =
      some (journalBytes events) := rfl
  obtain ⟨root, hroot, hfiles⟩ := hholds.exists_root hjournal
  have hcontent := hfiles .measurements _ hmeasurements
  -- the records fit the plan, so their lines pass whatever else the directory has
  have hvalidation := validateMeasurements_of_fit hfit hcontent rfl
  obtain ⟨-, -, -, hcount⟩ := validateMeasurements_eq_ok hvalidation
  refine ⟨root, terminalManifest layout plan execution validity hterminal,
    ⟨measured, execution.measurements.head?.map fun _ => generator, execution.measurements⟩,
    hroot, rfl, ?_⟩
  constructor
  case accepted => exact ⟨_, hfiles .manifest _ rfl, validateManifest_produced hplan hterminal⟩
  case measurements => exact ⟨_, hcontent, hvalidation⟩
  case run =>
    refine ⟨v.runRecord, hfiles .run _ rfl, ?_⟩
    obtain ⟨hid, hcount, hexperiment, hresolved⟩ := hidentified.run
    simp [matchesRun, terminalManifest, evidenceManifest, hid, hcount, hexperiment, hresolved,
      hstate]
  case attempt =>
    refine ⟨v.attemptRecord, hfiles .attempt _ rfl, ?_⟩
    obtain ⟨hid, hnumber⟩ := hidentified.attempt
    have hexpected := attemptTerminal_runStatus
      (terminalManifest layout plan execution validity hterminal)
    have hsame : ended = expectedAttemptStatus
        (terminalManifest layout plan execution validity hterminal) :=
      Option.some.inj (hended.symm.trans hexpected)
    simp only [matchesAttempt, Bool.and_eq_true, decide_eq_true_eq]
    exact ⟨⟨hid, hnumber⟩, hstatus.trans hsame⟩
  case validity =>
    exact ⟨validity, hfiles .validity _ rfl, matchesValidity_produced hterminal hcount hvalidity⟩
  case summary =>
    exact ⟨_, hfiles .summary _ rfl, matchesSummary_produced hterminal rfl hcount⟩
  case events =>
    exact ⟨journalBytes events, events, hfiles .events _ rfl, eventLines_flatMap events, hevents⟩

/-! ## The moment of the inventory -/

theorem AgreesThroughout.cons {past : Past} (h : AgreesThroughout codec layout plan past)
    {attempt : Attempt FileTree Operation}
    (hnow : attempt.succeeded = true →
      attempt.label = .change (.rename (layout.staging ++ [checksumTemporaryName])
        (layout.staging ++ [checksumFileName])) →
      StagedPasses codec layout plan attempt.after) :
    AgreesThroughout codec layout plan (attempt :: past) := by
  apply Throughout.cons h
  rintro ⟨other, older, hsame, hsucceeded, hlabel⟩
  obtain ⟨rfl, rfl⟩ := List.cons.inj hsame
  exact hnow hsucceeded hlabel

/-- The inventory is not among the payloads. -/
theorem Layout.not_isStaged_inventory (layout : Layout) :
    ¬ layout.IsStaged (layout.staging ++ [checksumFileName]) := by
  rintro (hstaging | ⟨file, htemporary | hpath⟩)
  · simp at hstaging
  · have hsame := List.append_cancel_left htemporary
    cases file <;> exact absurd hsame (by decide)
  · exact (layout.checksums_apart file).1.ne hpath

/-- Nothing before the inventory is the moment of it. -/
theorem undisturbed_agreesThroughout :
    Undisturbed layout fun w => AgreesThroughout codec layout plan w.history where
  respects scope hscope := by
    constructor
    · intro w label operation tree h hlabel hoperation _
      apply AgreesThroughout.cons h
      intro _ hinventory
      change label = _ at hinventory
      have hmem : layout.staging ++ [checksumFileName] ∈ operation.scope := by
        rw [← hlabel, hinventory]
        simp [Operation.scope, FileOperation.scope]
      exact absurd (hscope _ (hoperation _ hmem)) layout.not_isStaged_inventory
    · intro w label h _
      exact AgreesThroughout.cons h fun hsucceeded => by contradiction
    · intro w path h
      exact AgreesThroughout.cons h fun _ hinventory => by contradiction
    · intro w n h
      exact h
  ensured w path tree h _ _ := AgreesThroughout.cons h fun _ hinventory =>
    absurd (Operation.change.inj hinventory) (by simp)
  refused w label h := AgreesThroughout.cons h fun hsucceeded => by contradiction

/-- While the inventory is written, the payloads are those that pass. -/
theorem triple_writeInventory_agrees {contents : StagedFile → Option Bytes}
    (hpasses : ∀ disk, Holds layout contents disk → StagedPasses codec layout plan disk) :
    Triple faults
      (fun w (_ : RunLocals) =>
        AgreesThroughout codec layout plan w.history ∧ Holds layout contents w.store)
      (writeInventory codec layout)
      (fun _ w _ => AgreesThroughout codec layout plan w.history)
      (Undone fun w => AgreesThroughout codec layout plan w.history) := by
  -- what the inventory touches is no record, so every record stays as it was staged
  have hrespects : ∀ before, Respects
      [layout.staging ++ [checksumTemporaryName], layout.staging ++ [checksumFileName]]
      fun w => AgreesThroughout codec layout plan w.history ∧
        w.store.lookup layout.finalPath = before ∧ Holds layout contents w.store := by
    intro before
    have hholds := @respects_checksums before contents layout
    constructor
    · intro w label operation tree h hlabel hscope happly
      have hafter := hholds.performed w label operation tree h.2 hlabel hscope happly
      exact ⟨AgreesThroughout.cons h.1 fun _ _ => hpasses tree hafter.2, hafter⟩
    · intro w label h _
      exact ⟨AgreesThroughout.cons h.1 fun hsucceeded => by contradiction, h.2⟩
    · intro w path h
      exact ⟨AgreesThroughout.cons h.1 fun _ _ => hpasses w.store h.2.2, h.2⟩
    · intro w n h
      exact h
  intro w v h
  have hkeeps : Keeps faults (fun w' (_ : RunLocals) =>
      AgreesThroughout codec layout plan w'.history ∧
        w'.store.lookup layout.finalPath = w.store.lookup layout.finalPath ∧
        Holds layout contents w'.store) (writeInventory codec layout) :=
    Keeps.mapError (Keeps.mapError (keeps_writeChecksumFile fun _ => hrespects _))
  exact (hkeeps w v ⟨h.1, rfl, h.2⟩).mono (fun _ _ _ hend => hend.1) fun _ _ _ hend => hend.1

/-- Nothing behind the inventory is the moment of it. -/
theorem keeps_agrees_publish :
    Keeps faults (fun w (_ : RunLocals) => AgreesThroughout codec layout plan w.history)
      (publish layout) := by
  have hread : Respects [] fun w => AgreesThroughout codec layout plan w.history :=
    undisturbed_agreesThroughout.respects [] (by simp)
  apply Keeps.mapError
  refine Keeps.andThen (Disk.triple_pathExists fun _ => hread) fun conflict => ?_
  refine Keeps.andThen (Keeps.when (Keeps.fail _)) fun _ => ?_
  apply Disk.triple_performAs
  · intro w v tree h _
    apply AgreesThroughout.cons h
    intro _ hinventory
    have hsame := (FileOperation.rename.inj (Operation.change.inj hinventory)).1
    simp at hsame
  · intro w v error h
    exact AgreesThroughout.cons h fun hsucceeded => by contradiction

/-- From the terminal attempt to the end, whatever fails. -/
theorem triple_publishEvidence_agrees {executed : StagedFile → Option Bytes} {state : RunState}
    {ended : AttemptStatus} {warmups measured : UInt32} {generator : String}
    (hplan : resolveExperiment codec e = .ok plan)
    (hfit : MeasurementsFit codec plan execution.terminalState warmups measured generator
      execution.measurements)
    (hmeasurements : executed .measurements = some (measurementLines execution.measurements))
    (hvalidity : evaluateValidity plan execution layout.runId.text = some validity)
    (hended : attemptTerminal execution.terminalState = some ended) :
    Triple faults
      (Staged layout plan (fun w => AgreesThroughout codec layout plan w.history) executed state
        ended)
      (publishEvidence codec services layout plan execution validity
        (summarize plan execution validity layout.runId.text))
      (fun _ w _ => AgreesThroughout codec layout plan w.history)
      (Undone fun w => AgreesThroughout codec layout plan w.history) := by
  refine Triple.andThen (staged_finalize undisturbed_agreesThroughout) fun _ => ?_
  intro w v hstaged
  obtain ⟨events, provenance, hevents, hholds⟩ := hstaged.holds
  have hpasses : ∀ disk, Holds layout (contentsOf (finalContents layout plan executed execution
      validity (summarize plan execution validity layout.runId.text)) events provenance v) disk →
      StagedPasses codec layout plan disk := fun disk hdisk =>
    stagedPasses_of_holds hplan hfit hmeasurements hvalidity hended hstaged.identified
      hstaged.runStatus hstaged.attemptStatus hevents hdisk
  -- the verification and the move change none of the staged records
  have hread : Respects [] fun w => AgreesThroughout codec layout plan w.history :=
    undisturbed_agreesThroughout.respects [] (by simp)
  refine (Triple.andThen (triple_writeInventory_agrees hpasses) fun pending => ?_) w v
    ⟨hstaged.kept, hholds⟩
  refine Keeps.andThen (Keeps.mapError (Keeps.andThen (Keeps.mapError
    (Disk.keeps_read fun _ => hread)) fun _ => Keeps.ok _)) fun _ => ?_
  exact Keeps.andThen keeps_agrees_publish fun _ => Keeps.ok _

end

/-! ## Every run -/

/-- Whenever a run that was accepted puts its inventory in place, with an execution in
process or a failed one, the records pass the verifier's checks. -/
theorem records_agree (faults : Faults) (codec : Codec) (services : Services)
    (outputRoot : List FileName) (bytes : Bytes) (disk : FileTree) (plan : ResolvedExperiment)
    (kind : ExecutionKind) (haccepted : acceptRequest codec services bytes = .ok (plan, kind))
    (hexecution : IsInProcessOrFailed kind (executeRuntime codec services plan kind))
    (hdecoded : ∀ record ∈ (executeRuntime codec services plan kind).measurements,
      codec.measurement (toVec record.toJson) = .ok record) :
    Throughout (fun disk past => InventoryPlaced (services.layout outputRoot) past →
      StagedPasses codec (services.layout outputRoot) plan disk)
      (runOn codec services outputRoot bytes faults disk).world.history := by
  have hkind := isExecutable_of_acceptRequest haccepted
  obtain ⟨e, hplan⟩ : ∃ e, resolveExperiment codec e = .ok plan := by
    simp only [acceptRequest, bind_eq_ok_iff, mapFailure_eq_ok, pure_eq_ok_iff,
      Prod.mk.injEq] at haccepted
    obtain ⟨e, -, plan', hplan, kind', -, rfl, rfl⟩ := haccepted
    exact ⟨e, hplan⟩
  obtain ⟨hvalid, rfl, -, -⟩ := resolveExperiment_eq_ok hplan
  -- the runtimes in the process give records that fit, the others have failed with none
  obtain ⟨warmups, measured, generator, hfit⟩ := exists_fit hvalid hkind hexecution hdecoded
  rw [runOn_of_accepted haccepted]
  have hrun : Triple faults
      (fun w trace => AgreesThroughout codec (services.layout outputRoot) plan w.history ∧
        trace.idsDrawn = 0)
      (acceptedRun codec services outputRoot bytes plan kind)
      (fun _ w _ => AgreesThroughout codec (services.layout outputRoot) plan w.history)
      (fun error w _ => error.isRequestRejection = false ∧
        AgreesThroughout codec (services.layout outputRoot) plan w.history) :=
    triple_acceptedRun undisturbed_agreesThroughout fun createdAt =>
      staged_attemptRun undisturbed_agreesThroughout hkind rfl fun validity ended hvalidity hended =>
        triple_publishEvidence_agrees hplan hfit rfl hvalidity hended
  have hend := hrun ⟨disk, 0, []⟩ ⟨0, []⟩ ⟨Throughout.nil, rfl⟩
  unfold Ended.Meets at hend
  split at hend
  · exact hend
  · exact hend.2
  · exact hend.elim

/-- A run on a working disk with room comes to the moment of the inventory. -/
theorem exists_inventoryPlaced {codec : Codec} {services : Services}
    {outputRoot : List FileName} {bytes : Bytes} {disk : FileTree} {plan : ResolvedExperiment}
    {kind : ExecutionKind} (haccept : acceptRequest codec services bytes = .ok (plan, kind))
    (hroom : Room (services.layout outputRoot) disk) :
    ∃ attempt older,
      attempt :: older <:+ (runOn codec services outputRoot bytes noFaults disk).world.history ∧
      InventoryPlaced (services.layout outputRoot) (attempt :: older) := by
  have hwritten : InventoryWritten (services.layout outputRoot)
      (runOn codec services outputRoot bytes noFaults disk).world.history := by
    have hend := @meets_working codec services outputRoot bytes disk plan kind (fun _ => True)
      haccept (fun _ => trivial) hroom
    unfold Ended.Meets at hend
    split at hend
    · obtain ⟨manifest, hwritten, -⟩ := hend
      exact hwritten
    · obtain ⟨source, -, hwritten, -⟩ := hend
      exact hwritten
    · exact hend.elim
  obtain ⟨attempt, hmem, hplaced⟩ := hwritten
  obtain ⟨newer, older, hhistory⟩ := List.append_of_mem hmem
  exact ⟨attempt, older, ⟨newer, hhistory.symm⟩, attempt, older, rfl, hplaced⟩

namespace SampleRun

/-- The only measurement of the sample run. -/
def measurement : MeasurementRecord := LocalFake.measurement sha256 plan 42 .measured 1 1

/-- The codec of the sample run; the line of the measurement is the only one it is asked
for. -/
def measuringCodec : Codec := { codec with measurement := fun _ => .ok measurement }

end SampleRun

/-- The sample run comes to the moment of the inventory, and its records pass there. -/
theorem records_agree_sample :
    ∃ attempt older, attempt :: older <:+ (runOn SampleRun.measuringCodec SampleRun.services []
        (utf8 SampleRun.document) noFaults .empty).world.history ∧
      InventoryPlaced (SampleRun.services.layout []) (attempt :: older) ∧
      StagedPasses SampleRun.measuringCodec (SampleRun.services.layout []) SampleRun.plan
        attempt.after := by
  have haccepted : acceptRequest SampleRun.measuringCodec SampleRun.services
      (utf8 SampleRun.document) = .ok (SampleRun.plan, .localFake 42 .success) :=
    SampleRun.accepted SampleRun.document
  have hagree := records_agree noFaults SampleRun.measuringCodec SampleRun.services []
    (utf8 SampleRun.document) .empty SampleRun.plan (.localFake 42 .success) haccepted
    (Or.inl ⟨42, .success, rfl⟩) (by
      intro record hmem
      have hrecords : (executeRuntime SampleRun.measuringCodec SampleRun.services SampleRun.plan
          (.localFake 42 .success)).measurements = [SampleRun.measurement] := rfl
      rw [hrecords, List.mem_singleton] at hmem
      rw [hmem]
      rfl)
  obtain ⟨attempt, older, hsuffix, hplaced⟩ := exists_inventoryPlaced haccepted SampleRun.room
  exact ⟨attempt, older, hsuffix, hplaced, hagree attempt older hsuffix hplaced⟩

end Benchplane
