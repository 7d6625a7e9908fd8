import Benchplane.Evidence.InventorySoundness
import Benchplane.Evidence.Verifier

/-!
# What an accepted bundle says

An accepted bundle is one that the program could have produced: the plan is the
one its experiment resolves to, all records belong to the run, and validity and
summary are what the program computes from the measurements.  The verifier gets
there from counts that it derives from the plan, the program from the records it
has, so the two have to be shown to agree.
-/

namespace Benchplane

open Library

/-! ## Files of a bundle -/

/-- The bytes of the regular file at a relative path. -/
def BundleRoot.fileAt (root : BundleRoot) (path : String) : Option Bytes :=
  (entryNames (utf8 path)).bind fun names =>
    match root.tree.lookup names with
    | some (.file content) => some content
    | _ => none

theorem BundleRoot.fileAt_eq_some {root : BundleRoot} {path : String} {content : Bytes} :
    root.fileAt path = some content ↔
      ∃ names, entryNames (utf8 path) = some names ∧
        root.tree.lookup names = some (.file content) := by
  simp only [fileAt, Option.bind_eq_some_iff]
  constructor
  · rintro ⟨names, hnames, hlookup⟩
    refine ⟨names, hnames, ?_⟩
    split at hlookup
    · rename_i found hfound
      rw [hfound, Option.some.inj hlookup]
    · contradiction
  · rintro ⟨names, hnames, hlookup⟩
    exact ⟨names, hnames, by rw [hlookup]⟩

/-- The file at a path decodes to a record with a property. -/
def BundleRoot.Has {α : Type} (root : BundleRoot) (decode : Bytes → Except String α)
    (path : String) (good : α → Prop) : Prop :=
  ∃ bytes record, root.fileAt path = some bytes ∧ decode bytes = .ok record ∧ good record

theorem BundleRoot.Has.imp {α : Type} {root : BundleRoot} {decode : Bytes → Except String α}
    {path : String} {good good' : α → Prop} (h : root.Has decode path good)
    (himp : ∀ record, good record → good' record) : root.Has decode path good' := by
  obtain ⟨bytes, record, hfile, hdecode, hgood⟩ := h
  exact ⟨bytes, record, hfile, hdecode, himp record hgood⟩

def attemptsName : FileName := .ofString "attempts" (by decide)
def firstAttemptName : FileName := .ofString "0001" (by decide)

/-- The payloads of a run. -/
inductive StagedFile where
  | experiment
  | plan
  | run
  | events
  | validity
  | summary
  | manifest
  | attempt
  | measurements
  | provenance
  | resources
  deriving DecidableEq

namespace StagedFile

/-- Whether a payload is the attempt's. -/
def isAttempt : StagedFile → Bool
  | .attempt | .measurements | .provenance | .resources => true
  | .experiment | .plan | .run | .events | .validity | .summary | .manifest => false

def name : StagedFile → FileName
  | .experiment => .ofString "experiment.yaml" (by decide)
  | .plan => .ofString "resolved-plan.json" (by decide)
  | .run => .ofString "run.json" (by decide)
  | .events => .ofString "events.jsonl" (by decide)
  | .validity => .ofString "validity.json" (by decide)
  | .summary => .ofString "summary.json" (by decide)
  | .manifest => .ofString "manifest.json" (by decide)
  | .attempt => .ofString "attempt.json" (by decide)
  | .measurements => .ofString "measurements.jsonl" (by decide)
  | .provenance => .ofString "provenance.json" (by decide)
  | .resources => .ofString "resources.json" (by decide)

/-- The path below the root of the bundle with a given last name. -/
def below (file : StagedFile) (last : FileName) : List FileName :=
  if file.isAttempt then [attemptsName, firstAttemptName, last] else [last]

end StagedFile

/-- The retained payloads and the entries they walk through. -/
def retainedFiles : List (String × List FileName) :=
  [("manifest.json", StagedFile.manifest.below StagedFile.manifest.name),
    ("run.json", StagedFile.run.below StagedFile.run.name),
    ("attempts/0001/attempt.json", StagedFile.attempt.below StagedFile.attempt.name),
    ("validity.json", StagedFile.validity.below StagedFile.validity.name),
    ("summary.json", StagedFile.summary.below StagedFile.summary.name),
    ("events.jsonl", StagedFile.events.below StagedFile.events.name),
    ("attempts/0001/provenance.json", StagedFile.provenance.below StagedFile.provenance.name),
    ("attempts/0001/resources.json", StagedFile.resources.below StagedFile.resources.name),
    ("experiment.yaml", StagedFile.experiment.below StagedFile.experiment.name),
    ("resolved-plan.json", StagedFile.plan.below StagedFile.plan.name)]

theorem relativePath_retainedFiles : ∀ entry ∈ retainedFiles,
    entry.2 ≠ [checksumFileName] ∧ entry.2 ≠ [] ∧ utf8 entry.1 = relativePath entry.2 := by
  decide

theorem mem_retainedFiles {path : String} {limit : Nat} (h : retainedLimit path = some limit) :
    path ∈ retainedFiles.map Prod.fst := by
  simp only [retainedFiles, List.map_cons, List.map_nil, List.mem_cons, List.not_mem_nil,
    or_false]
  unfold retainedLimit at h
  grind

theorem exists_names_of_retainedLimit {path : String} {limit : Nat}
    (h : retainedLimit path = some limit) :
    ∃ names, names ≠ [checksumFileName] ∧ names ≠ [] ∧ utf8 path = relativePath names := by
  obtain ⟨entry, hentry, rfl⟩ := List.mem_map.mp (mem_retainedFiles h)
  exact ⟨entry.2, relativePath_retainedFiles entry hentry⟩

/-- After the inventory phase the retained records are the files of the tree. -/
theorem lookup_retained {hash : Bytes → Digest} {root : BundleRoot}
    {payloads : SortedMap String Bytes} {progress : Progress}
    (hread : readInventory hash root = .ok (payloads, progress))
    (hmissing : ∀ key ∈ payloads.keys, key ∈ progress.names) {path : String} {limit : Nat}
    (hlimit : retainedLimit path = some limit) :
    progress.retained.lookup path = root.fileAt path := by
  obtain ⟨sums, -, -, hkeys, -, hloop⟩ := readInventory_reads hread
  cases hlookup : progress.retained.lookup path with
  | some bytes =>
      obtain ⟨before, after, hsplit, -⟩ := List.lookup_eq_some_iff.mp hlookup
      obtain ⟨-, names, hpayload, hpath, -⟩ := hloop.retained (path, bytes) (by simp [hsplit])
      refine (BundleRoot.fileAt_eq_some.mpr ⟨names, ?_, hpayload.2⟩).symm
      rw [hpath, entryNames_relativePath hpayload.ne_nil]
  | none =>
      cases hfile : root.fileAt path with
      | none => rfl
      | some content =>
          -- a file at the path would have been declared and kept
          obtain ⟨names, hsums, hne, hpath⟩ := exists_names_of_retainedLimit hlimit
          obtain ⟨names', hnames', hcontent⟩ := BundleRoot.fileAt_eq_some.mp hfile
          rw [hpath, entryNames_relativePath hne] at hnames'
          obtain rfl := Option.some.inj hnames'
          have hkey : path ∈ payloads.keys :=
            (hkeys path).mpr ⟨names, content, ⟨hsums, hcontent⟩, hpath⟩
          obtain ⟨bytes, hbytes⟩ := hloop.kept path (hmissing path hkey) limit hlimit
          have habsent := List.lookup_eq_none_iff.mp hlookup _ hbytes
          simp at habsent

/-! ## Measurements -/

/-- The records of a measurement file. -/
def parseMeasurements (codec : Codec) (content : Bytes) : Except String (List MeasurementRecord) :=
  (splitInclusive 10 content).mapM fun line => codec.measurement (recordBytes line)

/-- What the lines read so far have given. -/
structure ReadsMeasurements (codec : Codec) (warmups : UInt32) (lines : List Bytes)
    (progress : MeasurementProgress) : Prop where
  parsed : (lines.mapM fun line => codec.measurement (recordBytes line)) = .ok progress.records
  measured : (measuredRecords progress.records).length =
    progress.records.length - warmups.toNat

/-- An accepted record has the phase of its position. -/
theorem phase_of_validate {record : MeasurementRecord} {position : Nat} {warmups : UInt32}
    {plan : ResolvedExperiment} {prior : Option String}
    (h : validateMeasurementRecord record position warmups plan prior = .ok ()) :
    record.phase = (expectedPlace warmups position).1 := by
  simp only [validateMeasurementRecord, bind_eq_ok_iff, rejectIf_eq_ok, Decidable.not_not] at h
  obtain ⟨-, hmatches, -⟩ := h
  simp only [matchesExecution, Bool.and_eq_true, decide_eq_true_eq] at hmatches
  exact hmatches.1.1.1.1.1.1.1.1.1.2

theorem ReadsMeasurements.line {codec : Codec} {warmups : UInt32} {plan : ResolvedExperiment}
    {total : Nat} {lines : List Bytes} {line : Bytes} {progress progress' : MeasurementProgress}
    (h : ReadsMeasurements codec warmups lines progress)
    (hline : checkMeasurementLine codec plan warmups total progress line = .ok progress') :
    ReadsMeasurements codec warmups (lines ++ [line]) progress' := by
  simp only [checkMeasurementLine, acceptRecord, bind_eq_ok_iff, rejectIf_eq_ok, mapFailure_eq_ok,
    pure_eq_ok_iff] at hline
  obtain ⟨-, -, -, -, -, -, -, -, record, hrecord, ⟨⟩, hvalid, rfl⟩ := hline
  have hphase := phase_of_validate hvalid
  constructor
  · simp [List.mapM_append, h.parsed, hrecord, bind, Except.bind, pure, Except.pure]
  · have hmeasured := h.measured
    have hposition : progress.position = progress.records.length := rfl
    simp only [measuredRecords, List.filter_append, List.length_append, List.length_singleton]
      at hmeasured ⊢
    rw [hmeasured]
    -- a warm-up adds nothing to either side, a measured record adds one to both
    unfold expectedPlace at hphase
    split at hphase
    · rename_i hwarmup
      simp only [hphase, List.filter_cons, List.filter_nil, reduceCtorEq, decide_false,
        Bool.false_eq_true, if_false, List.length_nil]
      change progress.records.length < warmups.toNat at hwarmup
      omega
    · rename_i hmeasuredPlace
      simp only [hphase, List.filter_cons, List.filter_nil, decide_true, if_true,
        List.length_singleton]
      change ¬ progress.records.length < warmups.toNat at hmeasuredPlace
      omega

/-- The measurements of an accepted file, and how many of them are measured. -/
theorem validateMeasurements_eq_ok {codec : Codec} {root : BundleRoot} {digest : String}
    {plan : ResolvedExperiment} {status : RunState} {validation : MeasurementValidation}
    (h : validateMeasurements codec root digest plan status = .ok validation) :
    ∃ content, root.fileAt "attempts/0001/measurements.jsonl" = some content ∧
      parseMeasurements codec content = .ok validation.records ∧
      UInt32.ofNat (measuredRecords validation.records).length = validation.measuredRecords := by
  simp only [validateMeasurements, bind_eq_ok_iff, checkedRegularPath_eq_ok, readFile_eq_ok,
    rejectIf_eq_ok, orReject_eq_ok, pure_eq_ok_iff, Prod.exists, Decidable.not_not] at h
  obtain ⟨names, ⟨hnames, -⟩, content, hcontent, -, -, warmups, measured, -, total, htotal,
    progress, hloop, -, -, -, hposition, rfl⟩ := h
  have hreads : ReadsMeasurements codec warmups (splitInclusive 10 content) progress :=
    foldlM_invariant (fun _ _ _ _ hdone hstep => hdone.line hstep) ⟨rfl, by simp [measuredRecords,
        MeasurementProgress.start]⟩ hloop
  refine ⟨content, BundleRoot.fileAt_eq_some.mpr ⟨names, hnames, hcontent⟩, hreads.parsed, ?_⟩
  obtain ⟨hsum, hfits⟩ := checkedAdd32_eq_some.mp htotal
  have hlength : progress.records.length = total := hposition
  have hcount : (measuredRecords progress.records).length = measured.toNat := by
    rw [hreads.measured]
    omega
  rw [hcount]
  simp

/-! ## Records -/

theorem has_of_parseRecord {α : Type} {root : BundleRoot} {records : Records}
    {decode : Bytes → Except String α} {path : String} {record : α}
    (hfile : records.lookup path = root.fileAt path)
    (h : parseRecord decode records path = .ok record) : root.Has decode path (· = record) := by
  simp only [parseRecord, requireRecord, bind_eq_ok_iff, orReject_eq_ok, mapFailure_eq_ok] at h
  obtain ⟨bytes, hbytes, hdecode⟩ := h
  exact ⟨bytes, record, hfile ▸ hbytes, hdecode, rfl⟩

/-- An optional record is the decoded file, checked, or absent with it. -/
theorem parseOptionalRecord_eq_ok {α : Type} {root : BundleRoot} {records : Records}
    {decode : Bytes → Except String α} {check : α → Except EvidenceError Unit} {path : String}
    {result : Option α} (hfile : records.lookup path = root.fileAt path)
    (h : parseOptionalRecord decode check records path = .ok result) :
    (root.fileAt path = none ↔ result = none) ∧ ∀ record, result = some record →
      root.Has decode path (· = record) ∧ check record = .ok () := by
  unfold parseOptionalRecord at h
  rw [hfile] at h
  cases hbytes : root.fileAt path with
  | none =>
      rw [hbytes] at h
      obtain rfl := Except.ok.inj h
      simp
  | some bytes =>
      rw [hbytes] at h
      simp only [bind_eq_ok_iff, mapFailure_eq_ok, pure_eq_ok_iff] at h
      obtain ⟨record, hdecode, ⟨⟩, hcheck, rfl⟩ := h
      refine ⟨by simp, fun other hother => ?_⟩
      obtain rfl := Option.some.inj hother
      exact ⟨⟨bytes, record, hbytes, hdecode, rfl⟩, hcheck⟩

/-- The output that a bundle documents, as far as its results depend on it. -/
def VerifiedEvidenceBundle.output (bundle : VerifiedEvidenceBundle) : ExecutionOutput :=
  ⟨bundle.measurements, none, none, bundle.manifest.runStatus, none⟩

/-- What the producer would compute from the measurements is what the bundle says. -/
def VerifiedEvidenceBundle.HasResults (bundle : VerifiedEvidenceBundle) (codec : Codec)
    (root : BundleRoot) : Prop :=
  ∃ expected, evaluateValidity bundle.plan bundle.output bundle.manifest.runId = some expected ∧
    expected.status = bundle.manifest.validityStatus ∧
    root.Has codec.validity "validity.json" (fun validity =>
      validity.runId = bundle.manifest.runId ∧ validity.status = expected.status ∧
        validity.requiredSamples = expected.requiredSamples ∧
        validity.observedSamples = expected.observedSamples) ∧
    root.Has codec.summary "summary.json"
      (· = summarize bundle.plan bundle.output expected bundle.manifest.runId)

/-- The verifier's status and statistics are the producer's. -/
theorem evaluateValidity_of_matches {manifest : TerminalManifest} {plan : ResolvedExperiment}
    {validity : ValidityResult} {records : List MeasurementRecord} {measured : UInt32}
    (hcount : UInt32.ofNat (measuredRecords records).length = measured)
    (h : matchesValidity validity manifest plan measured = true) :
    ∃ expected, evaluateValidity plan ⟨records, none, none, manifest.runStatus, none⟩
        manifest.runId = some expected ∧
      expected.status = manifest.validityStatus ∧ validity.runId = manifest.runId ∧
      validity.status = expected.status ∧
      validity.requiredSamples = expected.requiredSamples ∧
      validity.observedSamples = expected.observedSamples := by
  simp only [matchesValidity, Bool.and_eq_true, decide_eq_true_eq] at h
  obtain ⟨⟨⟨⟨hrun, hstatus⟩, hexpected⟩, hrequired⟩, hobserved⟩ := h
  obtain ⟨⟨format, runId, runStatus, validityStatus, _, _, _⟩, hterminal⟩ := manifest
  simp only at hrun hstatus hterminal
  unfold evaluateValidity
  -- only a success is judged by the number of its samples
  cases runStatus with
  | succeeded =>
      simp only [expectedValidity] at hexpected
      simp only [hcount]
      split
      · rename_i hmet
        rw [if_pos hmet] at hexpected
        exact ⟨_, rfl, hexpected.symm.trans hstatus, hrun, hexpected, hrequired, hobserved⟩
      · rename_i hmissed
        rw [if_neg hmissed] at hexpected
        exact ⟨_, rfl, hexpected.symm.trans hstatus, hrun, hexpected, hrequired, hobserved⟩
  | failed | interrupted =>
      simp only [expectedValidity] at hexpected
      simp only [hcount]
      exact ⟨_, rfl, hexpected.symm.trans hstatus, hrun, hexpected, hrequired, hobserved⟩
  | created | preparing | running | collecting | finalizing =>
      simp [RunState.isTerminal] at hterminal

/-- The verifier's statistics are those of the summary. -/
theorem expectedStatistics_eq {manifest : TerminalManifest} {records : List MeasurementRecord}
    {validity : ValidityStatus} (hstatus : validity = manifest.validityStatus) :
    expectedStatistics manifest records =
      (if measuredRecords records ≠ [] ∧ validity ≠ .indeterminate then
          describeMicros ((measuredRecords records).map (·.latencyMicros)) else none,
        if measuredRecords records ≠ [] ∧ validity ≠ .indeterminate then
          meanU64 ((measuredRecords records).map (·.throughputMilliRequestsPerSecond))
        else none) := by
  have hmeasured : records.filter (·.phase = .measured) = measuredRecords records := rfl
  simp only [expectedStatistics, hmeasured]
  rw [hstatus]
  by_cases hnone : measuredRecords records = [] ∨ manifest.validityStatus = .indeterminate
  · have hdescribed : ¬ (measuredRecords records ≠ [] ∧
        manifest.validityStatus ≠ .indeterminate) := by tauto
    rw [if_pos hnone, if_neg hdescribed, if_neg hdescribed]
  · have hdescribed : measuredRecords records ≠ [] ∧
        manifest.validityStatus ≠ .indeterminate := by tauto
    rw [if_neg hnone, if_pos hdescribed, if_pos hdescribed]

/-- A summary that the verifier accepts is the producer's. -/
theorem summary_of_matches {manifest : TerminalManifest} {plan : ResolvedExperiment}
    {validation : MeasurementValidation} {summary : RunSummary} {expected : ValidityResult}
    (hcount : UInt32.ofNat (measuredRecords validation.records).length =
      validation.measuredRecords)
    (hstatus : expected.status = manifest.validityStatus)
    (hexperiment : plan.experimentDigest = manifest.experimentDigest)
    (hplan : plan.resolvedPlanDigest = manifest.resolvedPlanDigest)
    (h : matchesSummary summary manifest validation = true) :
    summary = summarize plan ⟨validation.records, none, none, manifest.runStatus, none⟩ expected
      manifest.runId := by
  simp only [matchesSummary, Bool.and_eq_true, decide_eq_true_eq] at h
  obtain ⟨⟨⟨⟨⟨⟨⟨⟨hrun, hrunStatus⟩, hvalidity⟩, hattempts⟩, hsamples⟩, hexperiment'⟩, hplan'⟩,
    hlatency⟩, hthroughput⟩ := h
  cases summary
  rw [expectedStatistics_eq hstatus] at hlatency hthroughput
  simp only [summarize, RunSummary.mk.injEq]
  simp only at hrun hrunStatus hvalidity hattempts hsamples hexperiment' hplan' hlatency hthroughput
  refine ⟨hrun, hrunStatus, hattempts, ?_, hvalidity.trans hstatus.symm, hlatency, hthroughput,
    hexperiment'.trans hexperiment.symm, hplan'.trans hplan.symm⟩
  rw [hsamples, hcount]

/-- The expected attempt status is the one a run ends with. -/
theorem attemptTerminal_runStatus (manifest : TerminalManifest) :
    attemptTerminal manifest.runStatus = some (expectedAttemptStatus manifest) := by
  obtain ⟨⟨_, _, runStatus, _, _, _, _⟩, hterminal⟩ := manifest
  cases runStatus <;> first | rfl | simp [RunState.isTerminal] at hterminal

theorem attemptTerminal_of_matches {attempt : AttemptRecord} {manifest : TerminalManifest}
    (h : matchesAttempt attempt manifest = true) :
    attempt.runId = manifest.runId ∧ attempt.attemptNumber = 1 ∧
      attemptTerminal manifest.runStatus = some attempt.status := by
  simp only [matchesAttempt, Bool.and_eq_true, decide_eq_true_eq] at h
  obtain ⟨⟨hrun, hnumber⟩, hstatus⟩ := h
  refine ⟨hrun, hnumber, ?_⟩
  rw [hstatus]
  exact attemptTerminal_runStatus manifest

theorem validateEvents_eq_ok {codec : Codec} {manifest : TerminalManifest} {lines : List Bytes}
    (h : checkAll (validateEvent codec manifest) lines = .ok ()) :
    ∀ line ∈ lines, ∃ event, codec.event line = .ok event ∧ event.runId = manifest.runId ∧
      event.attemptNumber = 1 := by
  intro line hline
  have hvalid := checkAll_eq_ok.mp h line hline
  simp only [validateEvent, bind_eq_ok_iff, mapFailure_eq_ok, rejectIf_eq_ok, not_or,
    Decidable.not_not] at hvalid
  exact hvalid

/-! ## The bundle -/

/-- The bundle is one that the program could have produced. -/
structure RefinesProducer (codec : Codec) (root : BundleRoot) (bundle : VerifiedEvidenceBundle) :
    Prop where
  manifest : root.Has codec.manifest "manifest.json" fun manifest =>
    manifest = bundle.manifest.toEvidenceManifest ∧ manifest.attemptCount = 1 ∧
      manifest.experimentDigest = bundle.plan.experimentDigest ∧
      manifest.resolvedPlanDigest = bundle.plan.resolvedPlanDigest
  plan : root.Has codec.plan "resolved-plan.json" (· = bundle.plan)
  experiment : ∃ bytes e resolved, root.fileAt "experiment.yaml" = some bytes ∧
    parseExperiment codec bytes = .ok e ∧ resolveExperiment codec e = .ok resolved ∧
    resolved.partialEq bundle.plan = true
  measurements : ∃ content, root.fileAt "attempts/0001/measurements.jsonl" = some content ∧
    parseMeasurements codec content = .ok bundle.measurements
  run : root.Has codec.run "run.json" fun run =>
    run.runId = bundle.manifest.runId ∧ run.runStatus = bundle.manifest.runStatus ∧
      run.attemptCount = 1 ∧ run.experimentDigest = bundle.plan.experimentDigest ∧
      run.resolvedPlanDigest = bundle.plan.resolvedPlanDigest
  attempt : root.Has codec.attempt "attempts/0001/attempt.json" fun attempt =>
    attempt.runId = bundle.manifest.runId ∧ attempt.attemptNumber = 1 ∧
      attemptTerminal bundle.manifest.runStatus = some attempt.status
  events : ∃ bytes, root.fileAt "events.jsonl" = some bytes ∧ ∀ line ∈ eventLines bytes,
    ∃ event, codec.event line = .ok event ∧ event.runId = bundle.manifest.runId ∧
      event.attemptNumber = 1
  provenance : (root.fileAt "attempts/0001/provenance.json" = none ↔ bundle.provenance = none) ∧
    ∀ provenance, bundle.provenance = some provenance →
      root.Has codec.provenance "attempts/0001/provenance.json" (· = provenance) ∧
        provenance.runId = bundle.manifest.runId ∧ provenance.attemptNumber = 1
  resources : (root.fileAt "attempts/0001/resources.json" = none ↔ bundle.resources = none) ∧
    ∀ resources, bundle.resources = some resources →
      root.Has codec.resources "attempts/0001/resources.json" (· = resources) ∧
        resources.runId = bundle.manifest.runId ∧ resources.attemptNumber = 1
  results : bundle.HasResults codec root

/-- The parts of an accepted verification, with the retained records read as files. -/
theorem verifyEvidenceBundleData_eq_ok {codec : Codec} {root : BundleRoot}
    {bundle : VerifiedEvidenceBundle} (h : verifyEvidenceBundleData codec root = .ok bundle) :
    ∃ (records : Records) (digests : List (String × String)) (manifest : TerminalManifest),
      (∀ path limit, retainedLimit path = some limit → records.lookup path = root.fileAt path) ∧
      root.Has codec.manifest "manifest.json" (validateManifest · = .ok manifest) ∧
      validateRecordConsistency codec root manifest records digests = .ok bundle := by
  simp only [verifyEvidenceBundleData, bind_eq_ok_iff, orReject_eq_ok, mapFailure_eq_ok,
    checkMissing, checkAll_eq_ok, rejectIf_eq_ok, Decidable.not_not, Prod.exists] at h
  obtain ⟨payloads, progress, hread, bytes, hbytes, -, hmissing, manifest, hmanifest, terminal,
    hterminal, -, -, hconsistent⟩ := h
  have hfiles : ∀ path limit, retainedLimit path = some limit →
      progress.retained.lookup path = root.fileAt path :=
    fun path limit hlimit => lookup_retained hread hmissing hlimit
  have hfile : progress.retained.lookup "manifest.json" = root.fileAt "manifest.json" :=
    hfiles _ maxManifestBytes rfl
  exact ⟨progress.retained, progress.digests, terminal, hfiles,
    ⟨bytes, manifest, hfile ▸ hbytes, hmanifest, hterminal⟩, hconsistent⟩

theorem validateManifest_eq_ok {manifest : EvidenceManifest} {terminal : TerminalManifest}
    (h : validateManifest manifest = .ok terminal) :
    manifest = terminal.toEvidenceManifest ∧ manifest.attemptCount = 1 := by
  simp only [validateManifest, bind_eq_ok_iff, rejectIf_eq_ok, pure_eq_ok_iff,
    Decidable.not_not] at h
  obtain ⟨-, -, -, -, -, -, found, hfound, -, hattempts, -, -, -, -, rfl⟩ := h
  unfold requireTerminal at hfound
  split at hfound
  · obtain rfl := Except.ok.inj hfound
    exact ⟨rfl, hattempts⟩
  · contradiction

theorem digests_of_validateResolvedPlan {codec : Codec} {plan : ResolvedExperiment}
    {manifest : TerminalManifest} (h : validateResolvedPlan codec plan manifest = .ok ()) :
    plan.experimentDigest = manifest.experimentDigest ∧
      plan.resolvedPlanDigest = manifest.resolvedPlanDigest := by
  simp only [validateResolvedPlan, bind_eq_ok_iff, mapFailure_eq_ok, rejectIf_eq_ok, not_or,
    Decidable.not_not] at h
  obtain ⟨-, -, -, hdigests⟩ := h
  exact hdigests

/-- Every accepted bundle refines the producer. -/
theorem verifyEvidenceBundleData_sound (codec : Codec) (root : BundleRoot)
    (bundle : VerifiedEvidenceBundle) (h : verifyEvidenceBundleData codec root = .ok bundle) :
    RefinesProducer codec root bundle := by
  obtain ⟨records, digests, manifest, hfiles, hmanifest, hconsistent⟩ :=
    verifyEvidenceBundleData_eq_ok h
  simp only [validateRecordConsistency, bind_eq_ok_iff, rejectIf_eq_ok, orReject_eq_ok,
    pure_eq_ok_iff, Decidable.not_not] at hconsistent
  obtain ⟨-, -, plan, hplan, ⟨⟩, hplanDigests, ⟨⟩, hexperiment, digest, -, validation,
    hvalidation, run, hrun, -, hrunMatches, attempt, hattempt, -, hattemptMatches, provenance,
    hprovenance, resources, hresources, validity, hvalidity, -, hvalidityMatches, summary,
    hsummary, -, hsummaryMatches, events, hevents, ⟨⟩, heventLines, rfl⟩ := hconsistent
  obtain ⟨hexperimentDigest, hplanDigest⟩ := digests_of_validateResolvedPlan hplanDigests
  obtain ⟨content, hcontent, hparsed, hcount⟩ := validateMeasurements_eq_ok hvalidation
  obtain ⟨expected, hexpected, hstatus, hvalidityFields⟩ :=
    evaluateValidity_of_matches hcount hvalidityMatches
  obtain ⟨hprovenanceFile, hprovenanceChecked⟩ :=
    parseOptionalRecord_eq_ok (hfiles _ maxAttemptProvenanceBytes rfl) hprovenance
  obtain ⟨hresourcesFile, hresourcesChecked⟩ :=
    parseOptionalRecord_eq_ok (hfiles _ maxAttemptResourcesBytes rfl) hresources
  -- every field is what one of the checks has established
  constructor
  case manifest =>
    refine hmanifest.imp fun found hfound => ?_
    obtain ⟨rfl, hattempts⟩ := validateManifest_eq_ok hfound
    exact ⟨rfl, hattempts, hexperimentDigest.symm, hplanDigest.symm⟩
  case plan => exact has_of_parseRecord (hfiles _ maxResolvedPlanBytes rfl) hplan
  case experiment =>
    simp only [validateOriginalExperiment, requireRecord, bind_eq_ok_iff, orReject_eq_ok,
      mapFailure_eq_ok, rejectIf_eq_ok, Decidable.not_not] at hexperiment
    obtain ⟨bytes, hbytes, hrest⟩ := hexperiment
    rw [hfiles _ maxExperimentBytes rfl] at hbytes
    obtain ⟨e, he, resolved, hresolved, hsame⟩ := hrest
    exact ⟨bytes, e, resolved, hbytes, he, hresolved, hsame⟩
  case measurements => exact ⟨content, hcontent, hparsed⟩
  case run =>
    refine (has_of_parseRecord (hfiles _ maxIdentityRecordBytes rfl) hrun).imp ?_
    rintro _ rfl
    simp only [matchesRun, Bool.and_eq_true, decide_eq_true_eq] at hrunMatches
    obtain ⟨⟨⟨⟨hid, hrunStatus⟩, hattempts⟩, hrunExperiment⟩, hrunPlan⟩ := hrunMatches
    exact ⟨hid, hrunStatus, hattempts, hrunExperiment.trans hexperimentDigest.symm,
      hrunPlan.trans hplanDigest.symm⟩
  case attempt =>
    refine (has_of_parseRecord (hfiles _ maxIdentityRecordBytes rfl) hattempt).imp ?_
    rintro _ rfl
    exact attemptTerminal_of_matches hattemptMatches
  case events =>
    simp only [requireRecord, orReject_eq_ok] at hevents
    rw [hfiles _ maxIdentityRecordBytes rfl] at hevents
    exact ⟨events, hevents, validateEvents_eq_ok heventLines⟩
  case provenance =>
    refine ⟨hprovenanceFile, fun record hrecord => ?_⟩
    obtain ⟨hfile, hchecked⟩ := hprovenanceChecked record hrecord
    obtain ⟨hid, hnumber, -⟩ := validateAttemptProvenance_eq_ok hchecked
    exact ⟨hfile, hid, hnumber⟩
  case resources =>
    refine ⟨hresourcesFile, fun record hrecord => ?_⟩
    obtain ⟨hfile, hchecked⟩ := hresourcesChecked record hrecord
    exact ⟨hfile, validateAttemptResources_eq_ok hchecked⟩
  case results =>
    refine ⟨expected, hexpected, hstatus, ?_, ?_⟩
    · refine (has_of_parseRecord (hfiles _ maxIdentityRecordBytes rfl) hvalidity).imp ?_
      rintro _ rfl
      exact hvalidityFields
    · refine (has_of_parseRecord (hfiles _ maxIdentityRecordBytes rfl) hsummary).imp ?_
      rintro _ rfl
      exact summary_of_matches hcount hstatus hexperimentDigest hplanDigest hsummaryMatches

end Benchplane
