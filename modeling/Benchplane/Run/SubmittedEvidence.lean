import Benchplane.Run.RecordSizes
import Benchplane.Run.RequestSize
import Benchplane.Run.WorkingRun
import Benchplane.Runtime.SupervisorResults
import Benchplane.Schema.RecordDecoding

/-!
# When a working run publishes

On a working disk an accepted request, whose execution is in process or has failed, is
published exactly when its document and its plan are small enough and the verifier takes
the store path of the executable.  Nothing else that a run submits is ever rejected.
-/

namespace Benchplane

open Library

/-! ## What surrounds a run -/

/-- What a run relies on: the decoder of metadata says little about a line in the frame, the
host and the helpers are real, and the clock writes short times. -/
structure Reliable (codec : Codec) (services : Services) : Prop where
  refusals : ∀ line message, line.length < LlamaCpp.maxSerializedRecordBytes →
    codec.nvidiaMetadata line = .error message → Json.quoteSize message ≤ 100000
  host : services.host.IsBuilt
  storePaths : services.host.HasGenuineStorePaths
  helpers : services.AreAccounted
  clock : ∀ n, IsShortTime (services.clock n)

/-- The records of a run of the plan are read back: the plan itself, and those that hold no
binary64 number. -/
structure ReadsRecordsOf (codec : Codec) (plan : ResolvedExperiment) : Prop where
  plan : (Record.plan plan).IsReadBack codec
  others : ∀ record : Record, record.numbers = [] → record.IsReadBack codec

section

variable {codec : Codec} {services : Services} {plan : ResolvedExperiment} {kind : ExecutionKind}

/-- The derived deserializers read the records of a plan whose budget is read back. -/
theorem readsRecordsOf_derived {base : Codec} {refusal : Bytes → String}
    {parseFloat : ParseFloat} {readJson : Bytes → Option Library.Json}
    (hread : ReadsBack base.formatFloat readJson)
    (hfinite : plan.experiment.budget.isFinite = true)
    (hbudget : RoundTrips base.formatFloat parseFloat plan.experiment.budget) :
    ReadsRecordsOf (base.derived refusal parseFloat readJson) plan where
  plan := by
    apply Codec.derived_isReadBack hread (.plan plan)
    intro x hx
    rw [List.mem_singleton.mp hx]
    exact ⟨hfinite, hbudget⟩
  others record hnone := by
    apply Codec.derived_isReadBack hread record
    rw [hnone]
    exact fun _ hx => absurd hx List.not_mem_nil

theorem quoteSize_failureCode_le {code : String} (h : code ∈ kind.failureCodes) :
    Json.quoteSize code ≤ 64 := by
  cases kind with
  | localFake seed scenario =>
      revert code
      simp only [ExecutionKind.failureCodes]
      decide
  | cpuProbe config =>
      revert code
      simp only [ExecutionKind.failureCodes]
      decide
  | llamaCpp config =>
      revert code
      simp only [ExecutionKind.failureCodes]
      decide

theorem quoteSize_append_le (one other : String) :
    Json.quoteSize (one ++ other) ≤ Json.quoteSize one + Json.quoteSize other := by
  simp only [Json.quoteSize, String.toList_append, List.map_append, List.sum_append]
  omega

/-- The failure of an execution is short: the supervisor cuts its messages, and a refused
metadata line was in the frame. -/
theorem isShort_executeRuntime (hreliable : Reliable codec services) {failure : FailureRecord}
    (h : (executeRuntime codec services plan kind).failure = some failure) : failure.IsShort := by
  have hdeclared := isDeclared_executeRuntime h
  have hphase : Json.quoteSize failure.phase ≤ 64 := by
    rw [hdeclared.phase]
    decide
  have hcut : ∀ {record : FailureRecord}, record.Bounded →
      Json.quoteSize record.message ≤ 120000 := by
    intro record hbounded
    have hsize := Json.quoteSize_le record.message
    have hlimit : maxDiagnosticChars = 1024 := rfl
    unfold FailureRecord.Bounded at hbounded
    omega
  refine ⟨hphase, quoteSize_failureCode_le hdeclared.code, ?_⟩
  cases kind with
  | localFake seed scenario =>
      cases scenario with
      | success | insufficientMeasurements => contradiction
      | runtimeFailure | interrupted =>
          rw [← Option.some.inj h]
          exact hcut (by unfold FailureRecord.Bounded; decide)
  | cpuProbe config =>
      exact hcut ((CpuProbe.fromSupervisor_execute codec config services.cpuProbe).bounded failure h)
  | llamaCpp config =>
      rcases LlamaCpp.failure_execute h with hcommand | ⟨message, rfl, hmessage⟩
      · exact hcut (LlamaCpp.bounded_executeCommand failure hcommand)
      · show Json.quoteSize message ≤ 120000
        rcases hmessage with rfl | ⟨line, hline, hrefused⟩
        · exact (by decide : Json.quoteSize
            "llama.cpp helper metadata does not match the requested target" ≤ 120000)
        · have hframe := LlamaCpp.framed_executeCommand hline
          -- either the decoder has refused the line, or the values have been refused
          cases hdecode : codec.nvidiaMetadata line with
          | error error =>
              have hsize := hreliable.refusals line error hframe hdecode
              simp only [LlamaCpp.parseNvidiaMetadata, hdecode] at hrefused
              obtain rfl : "llama.cpp helper emitted malformed NVIDIA metadata: " ++ error =
                  message := Except.error.inj hrefused
              have happend := quoteSize_append_le
                "llama.cpp helper emitted malformed NVIDIA metadata: " error
              have hprefix : Json.quoteSize
                  "llama.cpp helper emitted malformed NVIDIA metadata: " ≤ 1000 := by decide
              omega
          | ok metadata =>
              obtain ⟨format, gpu⟩ := metadata
              simp only [LlamaCpp.parseNvidiaMetadata, hdecode] at hrefused
              revert hrefused
              change (rejectIf _ _ >>= fun _ => _) = _ → _
              unfold rejectIf
              split
              · intro hrefused
                obtain rfl : "llama.cpp helper NVIDIA metadata is inconsistent with the fixed target" =
                    message := Except.error.inj hrefused
                decide
              · intro hrefused
                contradiction

end

/-! ## The inventory -/

section

variable {d : Directory}

/-- Whether the reader takes the inventory of payloads depends on their sizes only. -/
theorem readerLimits_iff (hd : d.Distinct) (hlistable : Listable d) (honly : OnlyPayloads d) :
    ReaderLimits d ↔ ∀ (file : StagedFile) (content : Bytes),
      d.lookup file.path = some (.file content) →
      isAbove (retainedLimit file.display) content.length = false := by
  have habsent : ∀ name, d.find? name = none → name ∉ d.names := by
    intro name hnone hmem
    obtain ⟨node, hnode⟩ := Directory.exists_find?_of_mem_names hmem
    rw [hnone] at hnode
    contradiction
  have herase : d.erase checksumFileName = d :=
    Directory.erase_of_notMem (habsent _ hlistable.sums)
  have hfiles : ∀ path content, (path, content) ∈ payloadFiles d →
      ∃ file : StagedFile, path = file.path ∧ d.lookup file.path = some (.file content) := by
    intro path content hmem
    obtain ⟨-, hcontent⟩ := (mem_payloadFiles hd).mp hmem
    obtain ⟨file, rfl⟩ := honly.files path content hcontent
    exact ⟨file, rfl, hcontent⟩
  -- a staging directory has few names, and all of them are known
  have hcount : d.entryCount ≤ stagedPlaces.length := Directory.entryCount_le hd honly.places
  constructor
  · intro hlimits file content hcontent
    have hhead : file.path.head? ≠ some checksumFileName := by cases file <;> decide
    exact hlimits.recordBytes (file.path, content) ((mem_payloadFiles hd).mpr ⟨hhead, hcontent⟩)
      file.display file.utf8_display
  · intro hsizes
    constructor
    case entryCount =>
      rw [herase]
      have hplaces : stagedPlaces.length + 1 ≤ maxChecksumEntries := by decide
      omega
    case temporary => exact habsent _ hlistable.temporary
    case names =>
      intro file hfile name hname
      obtain ⟨staged, hpath, -⟩ := hfiles file.1 file.2 hfile
      rw [hpath] at hname
      rw [utf8_injective (hname.trans staged.utf8_display.symm)]
      cases staged <;> exact ⟨by decide, by decide⟩
    case lineBytes =>
      intro file hfile
      obtain ⟨staged, hpath, -⟩ := hfiles file.1 file.2 hfile
      rw [hpath]
      exact inventoryLineLength_le staged
    case totalBytes =>
      have hlengths : ∀ length ∈ (payloadFiles d).map fun file => inventoryLineLength file.1,
          length ≤ maxChecksumLineBytes := by
        intro length hlength
        obtain ⟨file, hfile, rfl⟩ := List.mem_map.mp hlength
        obtain ⟨staged, hpath, -⟩ := hfiles file.1 file.2 hfile
        rw [hpath]
        exact inventoryLineLength_le staged
      have hsum := List.sum_le_card_nsmul _ _ hlengths
      rw [List.length_map, smul_eq_mul] at hsum
      -- no line is longer than its limit, and there is at most one for each place
      have hfew : (payloadFiles d).length ≤ stagedPlaces.length := by
        rw [payloadFiles, herase]
        exact (Directory.length_files_le_entryCount d).trans hcount
      calc _ ≤ (payloadFiles d).length * maxChecksumLineBytes := hsum
        _ ≤ stagedPlaces.length * maxChecksumLineBytes := Nat.mul_le_mul_right _ hfew
        _ ≤ maxChecksumFileBytes := by decide
    case recordBytes =>
      intro file hfile name hname
      obtain ⟨staged, hpath, hcontent⟩ := hfiles file.1 file.2 hfile
      rw [hpath] at hname
      rw [utf8_injective (hname.trans staged.utf8_display.symm)]
      exact hsizes staged file.2 hcontent

end

/-! ## The files of the bundle -/

section

variable {codec : Codec} {services : Services} {layout : Layout} {bytes : Bytes}
  {plan : ResolvedExperiment} {disk : FileTree} {contents : StagedFile → Option Bytes}

/-- A written inventory over payloads: the bundle has these payloads, and the reader takes
the inventory according to their sizes. -/
theorem exists_submittedRoot {d : Directory} {pending : PendingEvidenceDigest}
    (hd : d.Distinct) (hlistable : Listable d) (honly : OnlyPayloads d)
    (hwritten : WrittenInventory codec.hash layout.staging d pending disk)
    (hholds : Holds layout contents disk) :
    ∃ root, canonicalBundleRoot layout.staging disk = .ok root ∧
      root.fileName = some layout.runId.text ∧
      (∀ file : StagedFile, root.fileAt file.display = contents file) ∧
      ((inventoryPhase codec.hash root).isOk = true ↔ ∀ file content,
        contents file = some content →
        isAbove (retainedLimit (StagedFile.display file)) content.length = false) := by
  obtain ⟨root, hroot, hphase⟩ := hwritten.accepted_iff hd hlistable.plain
  obtain ⟨hpath, htree⟩ := canonicalBundleRoot_eq_ok hroot
  rw [hwritten.placed] at htree
  have hwrittenTree : root.tree = writtenTree d pending.absorbed :=
    (Node.directory.inj (Option.some.inj htree)).symm
  -- the inventory was written over the records as they are
  have hfiles : ∀ file : StagedFile, root.fileAt file.display = contents file := by
    intro file
    have hlookup : root.tree.lookup file.path = (contents file).map Node.file := by
      rw [hwrittenTree]
      exact hholds.lookup_directory hwritten.placed file
    cases hcontent : contents file with
    | some content =>
        rw [hcontent] at hlookup
        exact (root.fileAt_display file).mpr hlookup
    | none =>
        cases hfile : root.fileAt file.display with
        | none => rfl
        | some content =>
            rw [hcontent, (root.fileAt_display file).mp hfile] at hlookup
            contradiction
  refine ⟨root, hroot, ?_, hfiles, hphase.trans ((readerLimits_iff hd hlistable honly).trans ?_)⟩
  · rw [BundleRoot.fileName, hpath, Layout.staging, List.getLast?_concat, Option.bind_some,
      RunId.fileName, FileName.toStr_ofString]
  · -- the payloads of the bundle are those the inventory was written over
    have hpayload : ∀ (file : StagedFile) (content : Bytes),
        contents file = some content ↔ d.lookup file.path = some (.file content) := by
      intro file content
      rw [← hfiles file, root.fileAt_display]
      have hhead : file.path.head? ≠ some checksumFileName ∧
          file.path.head? ≠ some checksumTemporaryName := by
        cases file <;> exact ⟨by decide, by decide⟩
      have hsame := @hasPayload_writtenTree d root pending.absorbed hd hwrittenTree file.path content
      rw [mem_payloadFiles hd] at hsame
      constructor
      · intro hlookup
        exact (hsame.mp ⟨file.path_ne.1, hlookup⟩).1.2
      · intro hlookup
        exact (hsame.mpr ⟨⟨hhead.1, hlookup⟩, hhead.2⟩).2
    constructor
    · intro h file content hcontent
      exact h file content ((hpayload file content).mp hcontent)
    · intro h file content hcontent
      exact h file content ((hpayload file content).mpr hcontent)

end

/-! ## The sizes of the payloads -/

section

variable {codec : Codec} {services : Services} {layout : Layout} {bytes : Bytes}
  {plan : ResolvedExperiment} {e : Experiment} {execution : ExecutionOutput}
  {validity : ValidityResult} {ended : AttemptStatus} {provenance : AttemptProvenance}
  {events : List LifecycleEvent} {v : RunLocals}

/-- The payloads that a run submits to the verifier. -/
def submittedContents (codec : Codec) (layout : Layout) (bytes : Bytes)
    (plan : ResolvedExperiment) (execution : ExecutionOutput) (validity : ValidityResult)
    (provenance : AttemptProvenance) (events : List LifecycleEvent) (v : RunLocals) :
    StagedFile → Option Bytes :=
  contentsOf (finalContents layout plan (executedContents layout
    (requestContents codec.formatFloat bytes plan) execution) execution validity
    (summarize plan execution validity layout.runId.text)) events
    (provenanceBytes (some provenance)) v

theorem withinLimit_of_le {name : String} {limit size : Nat}
    (hlimit : retainedLimit name = some limit) (h : size ≤ limit) :
    isAbove (retainedLimit name) size = false := by
  rw [hlimit]
  exact decide_eq_false (by omega)

/-- All payloads are within their limits when the two of the request are. -/
theorem submitted_withinLimits_iff (hdigests : plan.HasDigests)
    (hvalidity : evaluateValidity plan execution layout.runId.text = some validity)
    (haccount : Account layout plan IsShortTime ⟨execution.terminalState, execution.failure⟩
      ⟨ended, execution.failure⟩ events v)
    (hshort : ∀ failure, execution.failure = some failure → failure.IsShort)
    (hprovenance : (jsonBytes provenance.toJson).length ≤ maxAttemptProvenanceBytes) :
    (∀ file content, submittedContents codec layout bytes plan execution validity provenance
      events v file = some content →
      isAbove (retainedLimit (StagedFile.display file)) content.length = false) ↔
      StagesWithinLimits codec bytes plan := by
  obtain ⟨first, last, hfirst, hlast, -, hfailure, hrun⟩ := haccount.run
  obtain ⟨first', updatedAt, hfirst', hupdated, hattempt⟩ := haccount.attempt
  obtain rfl : first = first' := Option.some.inj (hfirst.symm.trans hfirst')
  have hfirstTime := haccount.timed first (List.mem_of_head? hfirst)
  have hlastTime := haccount.timed last (List.mem_of_getLast? hlast)
  constructor
  · intro h
    exact ⟨h .experiment _ rfl, h .plan _ rfl⟩
  · rintro ⟨hexperiment, hplan⟩ file content hcontent
    -- only the request and its plan can be large; the other records have bounds of their own
    cases file with
    | experiment =>
        obtain rfl : bytes = content := Option.some.inj hcontent
        exact hexperiment
    | plan =>
        obtain rfl : jsonBytes (plan.toJson codec.formatFloat) = content :=
          Option.some.inj hcontent
        exact hplan
    | measurements => rfl
    | run =>
        obtain rfl : jsonBytes v.runRecord.toJson = content := Option.some.inj hcontent
        rw [hrun]
        apply withinLimit_of_le (by rfl : _ = some maxIdentityRecordBytes)
        exact length_runRecordOf_le hdigests hfirstTime hlastTime
          fun failure hmem => hshort failure (hfailure.symm.trans hmem)
    | attempt =>
        obtain rfl : jsonBytes v.attemptRecord.toJson = content := Option.some.inj hcontent
        rw [hattempt]
        apply withinLimit_of_le (by rfl : _ = some maxIdentityRecordBytes)
        exact length_attemptRecordOf_le hfirstTime hupdated hshort
    | events =>
        obtain rfl : journalBytes events = content := Option.some.inj hcontent
        apply withinLimit_of_le (by rfl : _ = some maxIdentityRecordBytes)
        apply length_journalBytes_le haccount.follows.journal
        intro event hevent
        apply length_eventLine_le _ (haccount.timed event hevent)
        · intro failure hfound
          rcases haccount.failures event hevent with hnone | hsame
          · rw [hnone] at hfound
            exact absurd hfound (Option.not_mem_none failure)
          · exact hshort failure (hsame.symm.trans hfound)
        · rw [(haccount.own event hevent).1]
          exact quoteSize_runId_le layout
    | validity =>
        obtain rfl : jsonBytes validity.toJson = content := Option.some.inj hcontent
        exact withinLimit_of_le (by rfl) (length_validity_le hvalidity)
    | summary =>
        obtain rfl : jsonBytes (summarize plan execution validity layout.runId.text).toJson =
          content := Option.some.inj hcontent
        exact withinLimit_of_le (by rfl) (length_summary_le hdigests execution validity)
    | manifest =>
        obtain rfl : jsonBytes (evidenceManifest plan layout.runId.text execution.terminalState
          validity.status).toJson = content := Option.some.inj hcontent
        exact withinLimit_of_le (by rfl) (length_manifest_le hdigests _ _)
    | provenance =>
        obtain rfl : jsonBytes provenance.toJson = content := Option.some.inj hcontent
        exact withinLimit_of_le (by rfl) hprovenance
    | resources =>
        change execution.resources.map _ = some content at hcontent
        obtain ⟨resources, -, rfl⟩ := Option.map_eq_some_iff.mp hcontent
        exact withinLimit_of_le (by rfl) (length_attemptResources_le resources)

end

/-! ## The verifier's answer -/

section

variable {codec : Codec} {services : Services} {layout : Layout} {bytes : Bytes}
  {plan : ResolvedExperiment} {e : Experiment} {execution : ExecutionOutput}
  {validity : ValidityResult} {ended : AttemptStatus} {provenance : AttemptProvenance}
  {events : List LifecycleEvent} {v : RunLocals} {root : BundleRoot}
  {warmups measured : UInt32} {generator : String}

/-- What the verifier derives from the measurements of a run. -/
def submittedValidation (execution : ExecutionOutput) (measured : UInt32) (generator : String) :
    MeasurementValidation :=
  ⟨measured, execution.measurements.head?.map fun _ => generator, execution.measurements⟩

/-- The bundle of a run, as the verifier would hand it on. -/
def submittedBundle (root : BundleRoot) (layout : Layout) (plan : ResolvedExperiment)
    (execution : ExecutionOutput) (validity : ValidityResult) (provenance : AttemptProvenance)
    (hterminal : execution.terminalState.isTerminal = true) : VerifiedEvidenceBundle where
  root := root
  manifest := terminalManifest layout plan execution validity hterminal
  plan := plan
  provenance := some provenance
  resources := execution.resources.map (attemptResources layout.runId.text)
  measurements := execution.measurements

/-- A bundle with the payloads of a run is in order, as long as its inventory is accepted
and its provenance and its resources are checked. -/
theorem inOrder_submitted (hreads : ReadsRecordsOf codec plan)
    (hparse : parseExperiment codec bytes = .ok e) (hplan : resolveExperiment codec e = .ok plan)
    (hfit : MeasurementsFit codec plan execution.terminalState warmups measured generator
      execution.measurements)
    (hvalidity : evaluateValidity plan execution layout.runId.text = some validity)
    (hended : attemptTerminal execution.terminalState = some ended)
    (haccount : Account layout plan IsShortTime ⟨execution.terminalState, execution.failure⟩
      ⟨ended, execution.failure⟩ events v)
    (hterminal : execution.terminalState.isTerminal = true)
    (hname : root.fileName = some layout.runId.text)
    (hfiles : ∀ file : StagedFile, root.fileAt file.display = submittedContents codec layout bytes
      plan execution validity provenance events v file)
    (hinventory : (inventoryPhase codec.hash root).isOk = true)
    (hprovenance : validateAttemptProvenance provenance
      (terminalManifest layout plan execution validity hterminal) plan
      (submittedValidation execution measured generator).generator = .ok ())
    (hresources : ∀ resources, execution.resources = some resources →
      validateAttemptResources (attemptResources layout.runId.text resources)
        (terminalManifest layout plan execution validity hterminal) plan = .ok ()) :
    InOrder codec root (submittedBundle root layout plan execution validity provenance hterminal)
      (submittedValidation execution measured generator) := by
  obtain ⟨hvalid, rfl, -, -⟩ := resolveExperiment_eq_ok hplan
  have hfinite := Experiment.isFinite_of_validate hvalid
  have hmeasurements : root.fileAt StagedFile.measurements.display =
      some (measurementLines execution.measurements) := hfiles .measurements
  have hvalidation := validateMeasurements_of_fit hfit hmeasurements rfl
  obtain ⟨-, -, -, hcount⟩ := validateMeasurements_eq_ok hvalidation
  obtain ⟨first, last, -, -, hstate, -, hrun⟩ := haccount.run
  obtain ⟨first', updatedAt, -, -, hattempt⟩ := haccount.attempt
  -- every check of the verifier, each by what the run has written for it
  constructor
  case sameRoot => rfl
  case sameRecords => rfl
  case inventory => exact hinventory
  case required =>
    intro file hfile
    rw [hfiles file]
    cases file <;> first | exact ⟨_, rfl⟩ | exact absurd hfile (by decide)
  case name => exact hname
  case manifest =>
    exact ⟨_, _, hfiles .manifest, hreads.others (.manifest _) rfl,
      validateManifest_produced hplan hterminal⟩
  case plan =>
    refine ⟨_, plan, hfiles .plan, hreads.plan, rfl, ?_⟩
    simp only [validateResolvedPlan, bind_eq_ok_iff, mapFailure_eq_ok, rejectIf_eq_ok]
    exact ⟨plan, hplan, by simp [submittedBundle, ResolvedExperiment.partialEq_self hfinite,
      terminalManifest, evidenceManifest]⟩
  case experiment =>
    exact ⟨bytes, plan.experiment, plan, hfiles .experiment, hparse, hplan,
      ResolvedExperiment.partialEq_self hfinite⟩
  case measurements => exact ⟨_, hmeasurements, hvalidation⟩
  case run =>
    refine ⟨_, v.runRecord, hfiles .run, hreads.others (.run _) rfl, ?_⟩
    rw [hrun]
    simp [matchesRun, runRecordOf, submittedBundle, terminalManifest, evidenceManifest, hstate]
  case attempt =>
    refine ⟨_, v.attemptRecord, hfiles .attempt, hreads.others (.attempt _) rfl, ?_⟩
    have hexpected := attemptTerminal_runStatus
      (terminalManifest layout plan execution validity hterminal)
    -- the attempt has ended in the way the manifest's status asks for
    have hsame : ended = expectedAttemptStatus
        (terminalManifest layout plan execution validity hterminal) :=
      Option.some.inj (hended.symm.trans hexpected)
    rw [hattempt]
    simp only [matchesAttempt, Bool.and_eq_true, decide_eq_true_eq]
    exact ⟨⟨rfl, rfl⟩, hsame⟩
  case provenance =>
    exact ⟨_, provenance, hfiles .provenance, hreads.others (.provenance provenance) rfl, rfl, hprovenance⟩
  case resources =>
    have hfile : root.fileAt "attempts/0001/resources.json" =
        execution.resources.map fun resources =>
          jsonBytes (attemptResources layout.runId.text resources).toJson := hfiles .resources
    cases hexecution : execution.resources with
    | none =>
        rw [hexecution] at hfile
        rw [submittedBundle, hexecution]
        exact hfile
    | some resources =>
        rw [hexecution] at hfile
        rw [submittedBundle, hexecution]
        exact ⟨_, attemptResources layout.runId.text resources, hfile,
          hreads.others (.resources _) rfl, rfl, hresources resources hexecution⟩
  case validity =>
    exact ⟨_, validity, hfiles .validity, hreads.others (.validity validity) rfl,
      matchesValidity_produced hterminal hcount hvalidity⟩
  case summary =>
    exact ⟨_, _, hfiles .summary, hreads.others (.summary _) rfl,
      matchesSummary_produced hterminal rfl hcount⟩
  case events =>
    refine ⟨journalBytes events, hfiles .events, fun line hline => ?_⟩
    rw [journalBytes, eventLines_flatMap] at hline
    obtain ⟨event, hevent, rfl⟩ := List.mem_map.mp hline
    exact ⟨event, hreads.others (.event event) rfl, haccount.own event hevent⟩

/-- Accepted provenance has an accepted path of the executable. -/
theorem executable_of_validated {host : Host} {runId : String} {manifest : TerminalManifest}
    {other : ResolvedExperiment} {measurementGenerator : Option String}
    (hcapture : capture host runId plan = some provenance)
    (h : validateAttemptProvenance provenance manifest other measurementGenerator = .ok ()) :
    host.HasGenuineExecutable := by
  obtain ⟨runtime, -, rfl⟩ := Option.map_eq_some_iff.mp hcapture
  simp only [validateAttemptProvenance, bind_eq_ok_iff] at h
  obtain ⟨_, _, _, _, _, _, _, _, _, _, _, hpath, _⟩ := h
  exact executable_verified_iff.mp hpath

/-- Of a bundle with the payloads of a run, the verifier's answer depends on the sizes and
on the path of the executable only. -/
theorem verified_submitted_iff {host : Host} (hreads : ReadsRecordsOf codec plan)
    (hparse : parseExperiment codec bytes = .ok e) (hplan : resolveExperiment codec e = .ok plan)
    (hfit : MeasurementsFit codec plan execution.terminalState warmups measured generator
      execution.measurements)
    (hvalidity : evaluateValidity plan execution layout.runId.text = some validity)
    (hended : attemptTerminal execution.terminalState = some ended)
    (haccount : Account layout plan IsShortTime ⟨execution.terminalState, execution.failure⟩
      ⟨ended, execution.failure⟩ events v)
    (hterminal : execution.terminalState.isTerminal = true)
    (hname : root.fileName = some layout.runId.text)
    (hfiles : ∀ file : StagedFile, root.fileAt file.display = submittedContents codec layout bytes
      plan execution validity provenance events v file)
    (hcapture : capture host layout.runId.text plan = some provenance)
    (hprovenance : host.HasGenuineExecutable → validateAttemptProvenance provenance
      (terminalManifest layout plan execution validity hterminal) plan
      (submittedValidation execution measured generator).generator = .ok ())
    (hresources : ∀ resources, execution.resources = some resources →
      validateAttemptResources (attemptResources layout.runId.text resources)
        (terminalManifest layout plan execution validity hterminal) plan = .ok ()) :
    (∃ bundle, verifyEvidenceBundleData codec root = .ok bundle) ↔
      (inventoryPhase codec.hash root).isOk = true ∧ host.HasGenuineExecutable := by
  constructor
  · rintro ⟨bundle, hverified⟩
    have hparts := hverified
    simp only [verifyEvidenceBundleData, bind_eq_ok_iff, checkMissing, checkAll_eq_ok,
      rejectIf_eq_ok, Decidable.not_not, Prod.exists] at hparts
    obtain ⟨payloads, progress, hread, -, -, -, hmissing, -⟩ := hparts
    constructor
    · rw [inventoryPhase_eq_ok.mpr ⟨hread, hmissing⟩]
      rfl
    · obtain ⟨records, digests, manifest, hrecords, -, hconsistent⟩ :=
        verifyEvidenceBundleData_eq_ok hverified
      simp only [validateRecordConsistency, bind_eq_ok_iff, pure_eq_ok_iff] at hconsistent
      obtain ⟨-, -, plan', hplan', -, -, -, -, -, -, validation, -, -, -, -, -, -, -, -, -, kept,
        hkept, -⟩ := hconsistent
      obtain ⟨hpresent, hchecked⟩ :=
        parseOptionalRecord_eq_ok (hrecords _ maxAttemptProvenanceBytes rfl) hkept
      have hfile : root.fileAt "attempts/0001/provenance.json" =
          some (jsonBytes provenance.toJson) := hfiles .provenance
      -- the provenance that was checked is the one that was captured
      cases kept with
      | none =>
          rw [hpresent.mpr rfl] at hfile
          contradiction
      | some found =>
          obtain ⟨⟨content, record, hcontent, hdecode, rfl⟩, hvalidated⟩ := hchecked found rfl
          obtain rfl := Option.some.inj (hfile.symm.trans hcontent)
          obtain rfl : provenance = record :=
            Except.ok.inj ((hreads.others (.provenance provenance) rfl).symm.trans hdecode)
          exact executable_of_validated hcapture hvalidated
  · rintro ⟨hinventory, hgenuine⟩
    exact ⟨_, (inOrder_submitted hreads hparse hplan hfit hvalidity hended haccount hterminal hname
      hfiles hinventory (hprovenance hgenuine) hresources).accepted⟩

end

/-! ## The whole run -/

section

variable {codec : Codec} {services : Services} {layout : Layout} {bytes : Bytes}
  {plan : ResolvedExperiment} {e : Experiment} {kind : ExecutionKind} {disk : FileTree}

/-- Execution in process or a failed one: there is no GPU, and a GPU run has not
succeeded. -/
theorem inProcessOrFailed_gpu (hkind : IsExecutable plan kind)
    (hexecution : IsInProcessOrFailed kind (executeRuntime codec services plan kind)) :
    (executeRuntime codec services plan kind).nvidiaGpu = none ∧
      (plan.Targets .nvidiaCuda →
        (executeRuntime codec services plan kind).terminalState ≠ .succeeded) := by
  rcases hexecution with ⟨seed, scenario, rfl⟩ | hfailed
  · refine ⟨by cases scenario <;> rfl, ?_⟩
    rintro ⟨model, outputTokens, hruntime⟩
    cases hkind with
    | localFake provider runtime =>
        rw [runtime] at hruntime
        contradiction
  · have hne : (executeRuntime codec services plan kind).terminalState ≠ .succeeded := by
      rw [hfailed]
      decide
    exact ⟨nvidiaGpu_of_failed hne, fun _ => hne⟩

/-- The generator of the measurements is the one that was captured. -/
theorem generator_submitted (hkind : IsExecutable plan kind)
    (hexecution : IsInProcessOrFailed kind (executeRuntime codec services plan kind))
    {provenance : AttemptProvenance} {runId generator : String} {measured : UInt32}
    (hcapture : capture services.host runId plan = some provenance)
    (hgenerated : ∀ record ∈ (executeRuntime codec services plan kind).measurements,
      record.generator = generator) :
    (submittedValidation (executeRuntime codec services plan kind) measured
      generator).generator.all (· = provenance.software.runtime.generator) = true := by
  unfold submittedValidation
  dsimp only
  cases hmeasurements : (executeRuntime codec services plan kind).measurements with
  | nil => rfl
  | cons record rest =>
      have hmem : record ∈ (executeRuntime codec services plan kind).measurements := by
        rw [hmeasurements]
        exact List.mem_cons_self
      obtain rfl := hgenerated record hmem
      -- only the local fake gives records of its own; without one there is nothing to agree with
      cases hkind with
      | localFake provider runtime =>
          obtain ⟨captured, hcaptured, rfl⟩ := Option.map_eq_some_iff.mp hcapture
          rw [runtime] at hcaptured
          obtain rfl := Option.some.inj hcaptured
          simp only [executeRuntime, LocalFake.measurements_execute, List.mem_append] at hmem
          have hversion : record.generator = Schema.localFakeGeneratorVersion := by
            rcases hmem with hwarmup | hmeasured
            · obtain ⟨index, -, rfl⟩ := List.mem_map.mp hwarmup
              rfl
            · obtain ⟨index, -, rfl⟩ := List.mem_map.mp hmeasured
              rfl
          simp [hversion, RuntimeProvenance.generator]
      | cpuProbe provider runtime =>
          rcases hexecution with ⟨seed, scenario, hfake⟩ | hfailed
          · contradiction
          · have hempty := (CpuProbe.execute_of_failed
              (ne_of_eq_of_ne hfailed (by decide : RunState.failed ≠ .succeeded))).1
            rw [executeRuntime, hempty] at hmem
            exact absurd hmem List.not_mem_nil
      | llamaCpp provider runtime =>
          rcases hexecution with ⟨seed, scenario, hfake⟩ | hfailed
          · contradiction
          · have hempty := (LlamaCpp.execute_of_failed
              (ne_of_eq_of_ne hfailed (by decide : RunState.failed ≠ .succeeded))).1
            rw [executeRuntime, hempty] at hmem
            exact absurd hmem List.not_mem_nil

/-- The resources of a run are those of its helper. -/
theorem resources_submitted (hkind : IsExecutable plan kind) (hservices : services.AreAccounted)
    {validity : ValidityResult}
    (hterminal : (executeRuntime codec services plan kind).terminalState.isTerminal = true)
    {resources : ProcessResources}
    (hresources : (executeRuntime codec services plan kind).resources = some resources) :
    validateAttemptResources (attemptResources layout.runId.text resources)
      (terminalManifest layout plan (executeRuntime codec services plan kind) validity hterminal)
      plan = .ok () := by
  obtain ⟨hhelper, hpeak⟩ := resources_executeRuntime hservices hresources
  have hprocess : hasHelperProcess plan = true := by
    cases hkind with
    | localFake provider runtime => exact absurd rfl (hhelper _ _)
    | cpuProbe provider runtime => simp [hasHelperProcess, provider, runtime]
    | llamaCpp provider runtime => simp [hasHelperProcess, provider, runtime]
  simp only [validateAttemptResources, bind_eq_ok_iff, rejectIf_eq_ok]
  refine ⟨(), by simp [attemptResources], (), ?_, (), by simp [attemptResources, hpeak], ?_⟩
  · simp [attemptResources, terminalManifest, evidenceManifest]
  · simp [attemptResources, hprocess]

/-- What a run submits is accepted exactly when the request is small enough and the path
of the executable is one of the store. -/
theorem submitted_accepted_iff (hreliable : Reliable codec services)
    (hreads : ReadsRecordsOf codec plan)
    (hparse : parseExperiment codec bytes = .ok e) (hplan : resolveExperiment codec e = .ok plan)
    (hkind : executionKind services.cudaPackageAvailable plan = .ok kind)
    (hexecution : IsInProcessOrFailed kind (executeRuntime codec services plan kind))
    (h : Submitted codec services layout bytes plan IsShortTime
      (executeRuntime codec services plan kind) disk) :
    (∃ manifest, verifyEvidenceBundle codec layout.staging disk = .ok manifest) ↔
      StagesWithinLimits codec bytes plan ∧ services.host.HasGenuineExecutable := by
  have hexecutable := isExecutable_of_executionKind hkind
  have hterminal : (executeRuntime codec services plan kind).terminalState.isTerminal = true :=
    executeRuntime_terminal
  obtain ⟨hvalid, rfl, -, -⟩ := resolveExperiment_eq_ok hplan
  obtain ⟨warmups, measured, generator, hfit⟩ := exists_fit hvalid hexecutable hexecution
    fun record _ => hreads.others (.measurement record) rfl
  obtain ⟨d, pending, hd, hlistable, honly, hwritten⟩ := h.inventory
  obtain ⟨validity, ended, provenance, events, v, hvalidity, hended, hprovenance, haccount,
    hholds⟩ := h.records
  obtain ⟨hgpu, hstatus⟩ := inProcessOrFailed_gpu hexecutable hexecution
  have hcapture : capture services.host layout.runId.text plan = some provenance := by
    rw [recordedProvenance, hgpu] at hprovenance
    simpa using hprovenance
  -- the tree that was submitted is a bundle with the contents of the account
  obtain ⟨root, hroot, hname, hfiles, hinventory⟩ :=
    exists_submittedRoot hd hlistable honly hwritten hholds
  have hverified := verified_submitted_iff hreads hparse hplan hfit hvalidity hended
    haccount hterminal hname hfiles hcapture
    (fun hgenuine => (validateAttemptProvenance_captured hvalid hkind hreliable.host
      hreliable.storePaths hcapture rfl hstatus
      (generator_submitted hexecutable hexecution hcapture hfit.generated)).mpr hgenuine)
    fun resources => resources_submitted hexecutable hreliable.helpers hterminal
  have hsizes := @submitted_withinLimits_iff codec layout bytes plan
    (executeRuntime codec services plan kind) validity ended provenance events v
    (hasDigests_of_resolved hplan) hvalidity haccount
    (fun failure => isShort_executeRuntime hreliable)
    (length_captured_le hvalid hkind layout.runId.canonical hreliable.host hcapture)
  -- the command's verification is that of the bundle's data
  have hbundle : (∃ manifest, verifyEvidenceBundle codec layout.staging disk = .ok manifest) ↔
      ∃ bundle, verifyEvidenceBundleData codec root = .ok bundle := by
    simp only [verifyEvidenceBundle, hroot, bind_eq_ok_iff, pure_eq_ok_iff, Except.ok.injEq]
    constructor
    · rintro ⟨manifest, root', rfl, bundle, hbundle, -⟩
      exact ⟨bundle, hbundle⟩
    · rintro ⟨bundle, hbundle⟩
      exact ⟨_, root, rfl, bundle, hbundle, rfl⟩
  exact hbundle.trans (hverified.trans (and_congr_left' (hinventory.trans hsizes)))

end

/-- What decides whether a run on a working disk publishes. -/
def IsPublishable (codec : Codec) (services : Services) (bytes : Bytes)
    (plan : ResolvedExperiment) : Prop :=
  StagesWithinLimits codec bytes plan ∧ services.host.HasGenuineExecutable

theorem meets_publishable {codec : Codec} {services : Services} {outputRoot : List FileName}
    {bytes : Bytes} {disk : FileTree} {plan : ResolvedExperiment} {kind : ExecutionKind}
    (hreliable : Reliable codec services) (hreads : ReadsRecordsOf codec plan)
    (haccept : acceptRequest codec services bytes = .ok (plan, kind))
    (hexecution : IsInProcessOrFailed kind (executeRuntime codec services plan kind))
    (hroom : Room (services.layout outputRoot) disk) :
    (runOn codec services outputRoot bytes noFaults disk).Meets
      (fun _ _ _ => IsPublishable codec services bytes plan)
      (fun _ _ _ => ¬ IsPublishable codec services bytes plan) := by
  have haccepted := haccept
  simp only [acceptRequest, bind_eq_ok_iff, mapFailure_eq_ok, pure_eq_ok_iff,
    Prod.mk.injEq] at haccepted
  obtain ⟨e, hparse, plan', hplan, kind', hkind, rfl, rfl⟩ := haccepted
  have hsubmitted := fun disk => @submitted_accepted_iff codec services
    (services.layout outputRoot) bytes plan' e kind' disk hreliable hreads hparse hplan hkind hexecution
  have hend := meets_working haccept hreliable.clock hroom
  unfold Ended.Meets at hend ⊢
  split at hend
  · -- the verifier has accepted what was submitted
    rename_i result hresult
    obtain ⟨manifest, -, look, -, hlook, haccepts⟩ := hend
    exact (hsubmitted look.after hlook).mp ⟨manifest, haccepts⟩
  · obtain ⟨source, -, -, look, -, hlook, hrejected⟩ := hend
    intro hpublishable
    obtain ⟨manifest, haccepts⟩ := (hsubmitted look.after hlook).mpr hpublishable
    rw [hrejected] at haccepts
    contradiction
  · exact hend.elim

theorem exists_result {codec : Codec} {services : Services} {outputRoot : List FileName}
    {bytes : Bytes} {disk : FileTree} {plan : ResolvedExperiment} {kind : ExecutionKind}
    (hreliable : Reliable codec services) (hreads : ReadsRecordsOf codec plan)
    (haccept : acceptRequest codec services bytes = .ok (plan, kind))
    (hexecution : IsInProcessOrFailed kind (executeRuntime codec services plan kind))
    (hroom : Room (services.layout outputRoot) disk)
    (hpublishable : IsPublishable codec services bytes plan) :
    ∃ result, (runOn codec services outputRoot bytes noFaults disk).outcome = .ok result := by
  have hend := meets_publishable hreliable hreads haccept hexecution hroom
  unfold Ended.Meets at hend
  split at hend
  · rename_i result hresult
    exact ⟨result, hresult⟩
  · exact absurd hpublishable hend
  · exact hend.elim

namespace SampleRun

/-- The codec of the sample run with records that are read back. -/
def readingCodec : Codec :=
  ({ codec with formatFloat := SampleIdentity.formatFloat } : Codec).derived
    (fun _ => "malformed record") SampleIdentity.parseFloat SampleIdentity.readJson

/-- The plan of the sample run with the digests of that codec. -/
def readPlan : ResolvedExperiment where
  apiVersion := Schema.apiVersion
  kind := "ResolvedExperiment"
  experiment := experiment
  experimentDigest := sha256Digest readingCodec.hash
    (toVec (experiment.toJson readingCodec.formatFloat))
  resolvedPlanDigest := sha256Digest readingCodec.hash
    (toVec (resolvedPlanContent readingCodec.formatFloat experiment
      (sha256Digest readingCodec.hash (toVec (experiment.toJson readingCodec.formatFloat)))))

theorem resolved_readPlan : resolveExperiment readingCodec experiment = .ok readPlan := by
  have hvalid : experiment.validate = .ok () := rfl
  unfold resolveExperiment
  rw [hvalid]
  rfl

theorem accepted_readPlan (text : String) :
    acceptRequest readingCodec services (utf8 text) = .ok (readPlan, .localFake 42 .success) := by
  have hparsed : parseExperiment readingCodec (utf8 text) = .ok experiment := by
    simp [parseExperiment, readingCodec, Codec.derived, codec]
  unfold acceptRequest
  rw [hparsed]
  simp only [mapFailure, bind, Except.bind, resolved_readPlan]
  rfl

theorem readsRecordsOf_readPlan : ReadsRecordsOf readingCodec readPlan :=
  readsRecordsOf_derived SampleIdentity.readsBack rfl SampleIdentity.roundTrips_zero

theorem reliable : Reliable readingCodec services where
  refusals line message _ hrefused := by
    have hmessage : message = "malformed record" := by
      simp only [readingCodec, Codec.derived, decodeRecord] at hrefused
      split at hrefused
      · exact (Except.error.inj hrefused).symm
      · contradiction
    rw [hmessage]
    decide
  host := ⟨rfl, rfl, rfl, by decide⟩
  storePaths := Or.inl ⟨rfl, rfl, rfl⟩
  helpers := by
    have hhelper : helper.IsAccounted := ⟨by simp [helper], trivial, trivial⟩
    exact ⟨hhelper, hhelper, hhelper⟩
  clock _ := by
    show Json.quoteSize "2026-01-02T03:04:05.006Z" ≤ 64
    decide

theorem length_document : (utf8 document).length ≤ 65536 := by
  rw [length_utf8]
  unfold document
  refine (utf8ByteSize_intercalate_le _ _).trans ?_
  simp only [List.map_cons, List.map_nil, List.sum_cons, List.sum_nil]
  decide

theorem publishable : IsPublishable readingCodec services (utf8 document) readPlan := by
  have hplan : (jsonBytes ((Record.plan readPlan).toJson readingCodec.formatFloat)).length ≤
      65536 := by
    show (jsonBytes (readPlan.toJson readingCodec.formatFloat)).length ≤ 65536
    rw [length_planFile resolved_readPlan]
    exact Nat.le_of_ble_eq_true rfl
  have hdocumentLimit : retainedLimit "experiment.yaml" = some 65536 := rfl
  have hplanLimit : retainedLimit "resolved-plan.json" = some 65536 := rfl
  have hstaged : StagesWithinLimits readingCodec (utf8 document) readPlan :=
    ⟨withinLimit_of_le hdocumentLimit length_document, withinLimit_of_le hplanLimit hplan⟩
  refine ⟨hstaged, ?_⟩
  -- the sample host has no entry of the executable to compare with
  intro path hpath
  exact absurd hpath (Option.not_mem_none _)

/-- The sample run publishes wherever there is room for it. -/
theorem publishes {disk : FileTree} (hroom : Room (services.layout []) disk) :
    ∃ result, (runOn readingCodec services [] (utf8 document) noFaults disk).outcome =
      .ok result :=
  exists_result reliable readsRecordsOf_readPlan (accepted_readPlan document) (Or.inl ⟨42, .success, rfl⟩) hroom
    publishable

end SampleRun

end Benchplane
