import Benchplane.Evidence.RecordFiles
import Benchplane.Evidence.InventoryRoundTrip

/-!
# Accepted bundles

When a bundle is accepted: the inventory phase goes through, the required payloads
are there, and the records agree.  A directory of the required payloads alone with
its written inventory meets the first two.
-/

namespace Benchplane

open Library

/-! ## Payloads by name -/

namespace StagedFile

/-- The path of a payload below the root of the bundle. -/
def path (file : StagedFile) : List FileName := file.below file.name

/-- The path as the inventory writes it. -/
def display : StagedFile → String
  | .experiment => "experiment.yaml"
  | .plan => "resolved-plan.json"
  | .run => "run.json"
  | .events => "events.jsonl"
  | .validity => "validity.json"
  | .summary => "summary.json"
  | .manifest => "manifest.json"
  | .attempt => "attempts/0001/attempt.json"
  | .measurements => "attempts/0001/measurements.jsonl"
  | .provenance => "attempts/0001/provenance.json"
  | .resources => "attempts/0001/resources.json"

theorem utf8_display (file : StagedFile) : utf8 file.display = relativePath file.path := by
  cases file <;> decide

theorem path_ne (file : StagedFile) : file.path ≠ [checksumFileName] ∧ file.path ≠ [] := by
  cases file <;> decide

theorem path_injective {file other : StagedFile} (h : file.path = other.path) : file = other := by
  cases file <;> cases other <;> first | rfl | exact absurd h (by decide)

theorem entryNames_display (file : StagedFile) : entryNames (utf8 file.display) = some file.path := by
  rw [file.utf8_display, entryNames_relativePath file.path_ne.2]

/-- The payloads that every bundle has, in the order of the inventory. -/
def required : List StagedFile :=
  [.attempt, .measurements, .events, .experiment, .manifest, .plan, .run, .summary, .validity]

theorem mem_required_of_requiredPayloads {path : String} (h : path ∈ requiredPayloads) :
    ∃ file ∈ required, file.display = path := by
  revert path
  decide

end StagedFile

/-! ## From the parts to the bundle -/

/-- A computed digest has the form of one. -/
theorem isSha256Digest_sha256Digest (hash : Bytes → Digest) (bytes : Bytes) :
    isSha256Digest (sha256Digest hash bytes) = true := by
  have hhex : (utf8 (hash bytes).hex).all isLowerHex = true :=
    List.all_eq_true.mpr fun b hb => Digest.isLowerHex_of_mem_hex hb
  simp [isSha256Digest, sha256Digest, stripPrefix_append, hhex]

section

variable {codec : Codec} {root : BundleRoot} {payloads : SortedMap String Bytes}
  {progress : Progress} {file : StagedFile} {content : Bytes}

theorem BundleRoot.fileAt_display (root : BundleRoot) (file : StagedFile) :
    root.fileAt file.display = some content ↔ root.tree.lookup file.path = some (.file content) := by
  rw [fileAt_eq_some, file.entryNames_display]
  simp

/-- A payload is declared. -/
theorem mem_names_of_fileAt
    (hphase : inventoryPhase codec.hash root = .ok (payloads, progress))
    (hfile : root.fileAt file.display = some content) : file.display ∈ progress.names := by
  obtain ⟨hread, hmissing⟩ := inventoryPhase_eq_ok.mp hphase
  obtain ⟨sums, hreads⟩ := readInventory_reads hread
  exact hmissing _ ((hreads.keys _).mpr ⟨file.path, content,
    ⟨file.path_ne.1, (root.fileAt_display file).mp hfile⟩, file.utf8_display⟩)

/-- The digest kept for a payload is that of its bytes. -/
theorem lookup_digests (hphase : inventoryPhase codec.hash root = .ok (payloads, progress))
    (hfile : root.fileAt file.display = some content) :
    progress.digests.lookup file.display = some (codec.hash content).hex := by
  have hname := mem_names_of_fileAt hphase hfile
  obtain ⟨hread, -⟩ := inventoryPhase_eq_ok.mp hphase
  obtain ⟨sums, hreads⟩ := readInventory_reads hread
  rw [hreads.loop.names] at hname
  cases hlookup : progress.digests.lookup file.display with
  | none =>
      obtain ⟨entry, hentry, hsame⟩ := List.mem_map.mp hname
      have habsent := List.lookup_eq_none_iff.mp hlookup _ hentry
      simp [hsame] at habsent
  | some digest =>
      obtain ⟨before, after, hsplit, -⟩ := List.lookup_eq_some_iff.mp hlookup
      obtain ⟨names, other, hpayload, hpath, hdigest⟩ :=
        hreads.loop.hashed (file.display, digest) (by simp [hsplit])
      obtain rfl : names = file.path := relativePath_injective hpayload.ne_nil file.path_ne.2
        (hpath.symm.trans file.utf8_display)
      have hsame : root.fileAt file.display = some other :=
        (root.fileAt_display file).mpr hpayload.2
      obtain rfl : other = content := Option.some.inj (hsame.symm.trans hfile)
      exact congrArg some hdigest

/-- What the inventory phase has handed on: the retained payloads and the digests. -/
structure HandedOn (codec : Codec) (root : BundleRoot) (records : Records)
    (digests : List (String × String)) : Prop where
  records : ∀ path limit, retainedLimit path = some limit → records.lookup path = root.fileAt path
  digests : ∀ file content, root.fileAt (StagedFile.display file) = some content →
    digests.lookup file.display = some (codec.hash content).hex

/-- A bundle whose parts are in order is accepted. -/
theorem verifyEvidenceBundleData_of_parts {manifest : TerminalManifest}
    {bundle : VerifiedEvidenceBundle} (hphase : (inventoryPhase codec.hash root).isOk = true)
    (hmanifest : root.Has codec.manifest "manifest.json" (validateManifest · = .ok manifest))
    (hrequired : ∀ file ∈ StagedFile.required, ∃ content, root.fileAt file.display = some content)
    (hconsistent : ∀ records digests, HandedOn codec root records digests →
      validateRecordConsistency codec root manifest records digests = .ok bundle) :
    verifyEvidenceBundleData codec root = .ok bundle := by
  obtain ⟨⟨payloads, progress⟩, hphase⟩ := exists_of_isOk hphase
  obtain ⟨hread, hmissing⟩ := inventoryPhase_eq_ok.mp hphase
  have hretained : ∀ path limit, retainedLimit path = some limit →
      progress.retained.lookup path = root.fileAt path :=
    fun path limit hlimit => lookup_retained hread hmissing hlimit
  obtain ⟨bytes, found, hbytes, hfound, hterminal⟩ := hmanifest
  simp only [verifyEvidenceBundleData, bind_eq_ok_iff, orReject_eq_ok, mapFailure_eq_ok,
    checkMissing, checkAll_eq_ok, rejectIf_eq_ok, Decidable.not_not, Prod.exists,
    validateRequiredPayloads]
  refine ⟨payloads, progress, hread, bytes, ?_, (), hmissing, found, hfound, manifest, hterminal,
    (), ?_, ?_⟩
  · rw [hretained "manifest.json" maxManifestBytes rfl]
    exact hbytes
  · intro path hpath
    obtain ⟨file, hfile, rfl⟩ := StagedFile.mem_required_of_requiredPayloads hpath
    obtain ⟨content, hcontent⟩ := hrequired file hfile
    exact mem_names_of_fileAt hphase hcontent
  · exact hconsistent _ _ ⟨hretained, fun file content hfile => lookup_digests hphase hfile⟩

/-- The record that a bundle has or leaves out, as it is kept. -/
def BundleRoot.Keeps {α : Type} (root : BundleRoot) (decode : Bytes → Except String α)
    (path : String) (check : α → Except EvidenceError Unit) : Option α → Prop
  | none => root.fileAt path = none
  | some record => root.Has decode path fun found => found = record ∧ check found = .ok ()

/-- The files of a bundle are in order for these records. -/
structure InOrder (codec : Codec) (root : BundleRoot) (bundle : VerifiedEvidenceBundle)
    (validation : MeasurementValidation) : Prop where
  sameRoot : bundle.root = root
  sameRecords : bundle.measurements = validation.records
  inventory : (inventoryPhase codec.hash root).isOk = true
  required : ∀ file ∈ StagedFile.required, ∃ content, root.fileAt file.display = some content
  name : root.fileName = some bundle.manifest.runId
  manifest : root.Has codec.manifest "manifest.json" (validateManifest · = .ok bundle.manifest)
  plan : root.Has codec.plan "resolved-plan.json" fun plan =>
    plan = bundle.plan ∧ validateResolvedPlan codec plan bundle.manifest = .ok ()
  experiment : ∃ bytes e resolved, root.fileAt "experiment.yaml" = some bytes ∧
    parseExperiment codec bytes = .ok e ∧ resolveExperiment codec e = .ok resolved ∧
    resolved.partialEq bundle.plan = true
  measurements : ∃ content, root.fileAt "attempts/0001/measurements.jsonl" = some content ∧
    validateMeasurements codec root (codec.hash content).hex bundle.plan
      bundle.manifest.runStatus = .ok validation
  run : root.Has codec.run "run.json" (matchesRun · bundle.manifest = true)
  attempt : root.Has codec.attempt "attempts/0001/attempt.json"
    (matchesAttempt · bundle.manifest = true)
  provenance : root.Keeps codec.provenance "attempts/0001/provenance.json"
    (validateAttemptProvenance · bundle.manifest bundle.plan validation.generator)
    bundle.provenance
  resources : root.Keeps codec.resources "attempts/0001/resources.json"
    (validateAttemptResources · bundle.manifest bundle.plan) bundle.resources
  validity : root.Has codec.validity "validity.json"
    (matchesValidity · bundle.manifest bundle.plan validation.measuredRecords = true)
  summary : root.Has codec.summary "summary.json"
    (matchesSummary · bundle.manifest validation = true)
  events : ∃ bytes, root.fileAt "events.jsonl" = some bytes ∧ ∀ line ∈ eventLines bytes,
    ∃ event, codec.event line = .ok event ∧ event.runId = bundle.manifest.runId ∧
      event.attemptNumber = 1

section

variable {records : Records} {path : String} {limit : Nat} {α : Type}
  {decode : Bytes → Except String α}

theorem parseRecord_of_has {good : α → Prop} (hfiles : records.lookup path = root.fileAt path)
    (h : root.Has decode path good) :
    ∃ record, parseRecord decode records path = .ok record ∧ good record := by
  obtain ⟨bytes, record, hfile, hdecode, hgood⟩ := h
  refine ⟨record, ?_, hgood⟩
  simp only [parseRecord, requireRecord, bind_eq_ok_iff, orReject_eq_ok, mapFailure_eq_ok]
  exact ⟨bytes, hfiles.trans hfile, hdecode⟩

theorem parseOptionalRecord_of_keeps {check : α → Except EvidenceError Unit} {kept : Option α}
    (hfiles : records.lookup path = root.fileAt path) (h : root.Keeps decode path check kept) :
    parseOptionalRecord decode check records path = .ok kept := by
  cases kept with
  | none => rw [parseOptionalRecord, hfiles, h]
  | some record =>
      obtain ⟨bytes, found, hfile, hdecode, rfl, hcheck⟩ := h
      rw [parseOptionalRecord, hfiles, hfile]
      simp only [bind_eq_ok_iff, mapFailure_eq_ok, pure_eq_ok_iff]
      exact ⟨found, hdecode, (), hcheck, rfl⟩

end

/-- A bundle whose files are in order is accepted. -/
theorem InOrder.accepted {bundle : VerifiedEvidenceBundle}
    {validation : MeasurementValidation} (h : InOrder codec root bundle validation) :
    verifyEvidenceBundleData codec root = .ok bundle := by
  apply verifyEvidenceBundleData_of_parts h.inventory h.manifest h.required
  intro records digests hhanded
  obtain ⟨plan, hplan, rfl, hresolved⟩ :=
    parseRecord_of_has (hhanded.records _ maxResolvedPlanBytes rfl) h.plan
  obtain ⟨run, hrun, hmatchesRun⟩ :=
    parseRecord_of_has (hhanded.records _ maxIdentityRecordBytes rfl) h.run
  obtain ⟨attempt, hattempt, hmatchesAttempt⟩ :=
    parseRecord_of_has (hhanded.records _ maxIdentityRecordBytes rfl) h.attempt
  obtain ⟨validity, hvalidity, hmatchesValidity⟩ :=
    parseRecord_of_has (hhanded.records _ maxIdentityRecordBytes rfl) h.validity
  obtain ⟨summary, hsummary, hmatchesSummary⟩ :=
    parseRecord_of_has (hhanded.records _ maxIdentityRecordBytes rfl) h.summary
  have hprovenance := parseOptionalRecord_of_keeps
    (hhanded.records _ maxAttemptProvenanceBytes rfl) h.provenance
  have hresources := parseOptionalRecord_of_keeps
    (hhanded.records _ maxAttemptResourcesBytes rfl) h.resources
  obtain ⟨text, e, resolved, htext, hparsed, hresolvedAgain, hsame⟩ := h.experiment
  obtain ⟨content, hcontent, hvalidation⟩ := h.measurements
  obtain ⟨events, hevents, hlines⟩ := h.events
  have hbundle : bundle = ⟨root, bundle.manifest, bundle.plan, bundle.provenance,
      bundle.resources, validation.records⟩ := by rw [← h.sameRoot, ← h.sameRecords]
  simp only [validateRecordConsistency, bind_eq_ok_iff, rejectIf_eq_ok, orReject_eq_ok,
    checkAll_eq_ok, pure_eq_ok_iff]
  refine ⟨(), not_not_intro h.name, bundle.plan, hplan, (), hresolved, (), ?_, _,
    hhanded.digests .measurements content hcontent, validation, hvalidation, run, hrun, (),
    not_not_intro hmatchesRun, attempt, hattempt, (), not_not_intro hmatchesAttempt,
    bundle.provenance, hprovenance, bundle.resources, hresources, validity, hvalidity, (),
    not_not_intro hmatchesValidity, summary, hsummary, (), not_not_intro hmatchesSummary, events,
    ?_, (), ?_, hbundle.symm⟩
  · simp only [validateOriginalExperiment, requireRecord, bind_eq_ok_iff, orReject_eq_ok,
      mapFailure_eq_ok, rejectIf_eq_ok]
    exact ⟨text, (hhanded.records _ maxExperimentBytes rfl).trans htext, e, hparsed, resolved,
      hresolvedAgain, not_not_intro hsame⟩
  · simp only [requireRecord, orReject_eq_ok]
    exact (hhanded.records _ maxIdentityRecordBytes rfl).trans hevents
  · intro line hline
    obtain ⟨event, hevent, hrunId, hattemptNumber⟩ := hlines line hline
    simp only [validateEvent, bind_eq_ok_iff, mapFailure_eq_ok, rejectIf_eq_ok]
    exact ⟨event, hevent, by simp [hrunId, hattemptNumber]⟩

end

/-! ## Directories of staged files -/

/-- A directory that holds these payloads and nothing else, before its inventory is
written. -/
structure StagesFiles (d : Directory) (files : List StagedFile) (content : StagedFile → Bytes) :
    Prop where
  distinct : d.Distinct
  payloads : payloadFiles d = files.map fun file => (file.path, content file)
  temporary : checksumTemporaryName ∉ d.names
  entryCount : (d.erase checksumFileName).entryCount + 1 ≤ maxChecksumEntries
  fileCount : files.length ≤ 11
  walk : ∃ walk, gatherDirectory [] d ⟨.empty, 0⟩ = .ok walk ∧
    walk.payloads.entries = files.map fun file => (file.display, utf8 file.display)

/-- The entries of the inventory of staged files. -/
def stagedEntries (hash : Bytes → Digest) (files : List StagedFile)
    (content : StagedFile → Bytes) : List ((String × Bytes) × Digest) :=
  files.map fun file => ((file.display, utf8 file.display), hash (content file))

/-- The directory of staged files with its inventory. -/
def stagedBundle (hash : Bytes → Digest) (d : Directory) (files : List StagedFile)
    (content : StagedFile → Bytes) : Directory :=
  writtenTree d ((stagedEntries hash files content).flatMap inventoryLine)

section

variable {hash : Bytes → Digest} {d : Directory} {files : List StagedFile}
  {content : StagedFile → Bytes} {root : BundleRoot}

theorem StagesFiles.distinct_stagedBundle (h : StagesFiles d files content) :
    (stagedBundle hash d files content).Distinct := by
  have hfile : ∀ bytes, (Node.file bytes).Distinct := fun _ => trivial
  exact ((h.distinct.put _ (hfile _)).put _ (hfile _)).erase _

/-- The payloads of the directory are those it was made from. -/
theorem StagesFiles.fileAt (h : StagesFiles d files content)
    (htree : root.tree = stagedBundle hash d files content) (file : StagedFile) :
    root.fileAt file.display = if file ∈ files then some (content file) else none := by
  have hpayload : ∀ bytes, root.fileAt file.display = some bytes ↔
      (file.path, bytes) ∈ payloadFiles d ∧ file.path.head? ≠ some checksumTemporaryName := by
    intro bytes
    rw [root.fileAt_display, ← hasPayload_writtenTree h.distinct htree]
    exact ⟨fun hlookup => ⟨file.path_ne.1, hlookup⟩, fun hlookup => hlookup.2⟩
  have hhead : file.path.head? ≠ some checksumTemporaryName := by cases file <;> decide
  have hmem : ∀ bytes, (file.path, bytes) ∈ payloadFiles d ↔
      file ∈ files ∧ bytes = content file := by
    intro bytes
    rw [h.payloads, List.mem_map]
    constructor
    · rintro ⟨other, hother, hpair⟩
      obtain ⟨hpath, rfl⟩ := Prod.mk.inj hpair
      obtain rfl := StagedFile.path_injective hpath
      exact ⟨hother, rfl⟩
    · rintro ⟨hfile, rfl⟩
      exact ⟨file, hfile, rfl⟩
  split
  · rename_i hfile
    exact (hpayload _).mpr ⟨(hmem _).mpr ⟨hfile, rfl⟩, hhead⟩
  · rename_i hfile
    cases hfound : root.fileAt file.display with
    | none => rfl
    | some bytes => exact absurd ((hmem bytes).mp ((hpayload bytes).mp hfound).1).1 hfile

theorem inventoryLineLength_le (file : StagedFile) :
    inventoryLineLength file.path ≤ maxChecksumLineBytes := by
  cases file <;> decide

/-- Payloads within the reader's limits make a readable inventory. -/
theorem StagesFiles.inventoryPhase (h : StagesFiles d files content)
    (htree : root.tree = stagedBundle hash d files content)
    (hsizes : ∀ file ∈ files, isAbove (retainedLimit file.display) (content file).length = false) :
    (inventoryPhase hash root).isOk = true := by
  obtain ⟨walk, hwalk, hentries⟩ := h.walk
  have hfiles : ∀ file ∈ payloadFiles d, ∃ staged ∈ files,
      file = (staged.path, content staged) := by
    intro file hfile
    rw [h.payloads] at hfile
    obtain ⟨staged, hstaged, rfl⟩ := List.mem_map.mp hfile
    exact ⟨staged, hstaged, rfl⟩
  have hnamed : ∀ (staged : StagedFile) name, utf8 name = relativePath staged.path →
      name = staged.display :=
    fun staged name hname => utf8_injective (hname.trans staged.utf8_display.symm)
  refine inventoryPhase_of_limits h.distinct hwalk ?_ ?_ htree ?_
  · rw [hentries, stagedEntries, List.map_map]
    rfl
  · intro entry hentry names hnames _
    obtain ⟨staged, hstaged, rfl⟩ := List.mem_map.mp hentry
    obtain rfl : staged.path = names :=
      Option.some.inj (staged.entryNames_display.symm.trans hnames)
    have hmem : (staged.path, content staged) ∈ payloadFiles d := by
      rw [h.payloads]
      exact List.mem_map.mpr ⟨staged, hstaged, rfl⟩
    exact ⟨content staged, ((mem_payloadFiles h.distinct).mp hmem).2, rfl⟩
  · constructor
    case entryCount => exact h.entryCount
    case temporary => exact h.temporary
    case names =>
      intro file hfile name hname
      obtain ⟨staged, -, rfl⟩ := hfiles file hfile
      rw [hnamed staged name hname]
      cases staged <;> exact ⟨by decide, by decide⟩
    case lineBytes =>
      intro file hfile
      obtain ⟨staged, -, rfl⟩ := hfiles file hfile
      exact inventoryLineLength_le staged
    case totalBytes =>
      rw [h.payloads, List.map_map]
      have hlengths : ∀ length ∈ files.map ((fun file : List FileName × Bytes =>
          inventoryLineLength file.1) ∘ fun file : StagedFile => (file.path, content file)),
          length ≤ maxChecksumLineBytes := by
        intro length hlength
        obtain ⟨staged, -, rfl⟩ := List.mem_map.mp hlength
        exact inventoryLineLength_le staged
      have hsum := List.sum_le_card_nsmul _ _ hlengths
      rw [List.length_map, smul_eq_mul] at hsum
      calc _ ≤ files.length * maxChecksumLineBytes := hsum
        _ ≤ 11 * maxChecksumLineBytes := Nat.mul_le_mul_right _ h.fileCount
        _ ≤ maxChecksumFileBytes := by decide
    case recordBytes =>
      intro file hfile name hname
      obtain ⟨staged, hstaged, rfl⟩ := hfiles file hfile
      rw [hnamed staged name hname]
      exact hsizes staged hstaged

end

/-! ## A directory of the required payloads -/

/-- A directory with these entries. -/
def Library.Directory.ofEntries (entries : List (FileName × Node)) : Directory :=
  entries.foldr (fun entry rest => .entry entry.1 entry.2 rest) .empty

/-- The directory of a bundle with the required payloads alone, before its inventory
is written. -/
def bareDirectory (content : StagedFile → Bytes) : Directory :=
  let file (file : StagedFile) : FileName × Node := (file.name, .file (content file))
  let attempt := Directory.ofEntries [file .attempt, file .measurements]
  .ofEntries [(attemptsName, .directory (.ofEntries [(firstAttemptName, .directory attempt)])),
    file .events, file .experiment, file .manifest, file .plan, file .run, file .summary,
    file .validity]

theorem stagesFiles_bareDirectory (content : StagedFile → Bytes) :
    StagesFiles (bareDirectory content) StagedFile.required content := by
  constructor
  case distinct =>
    simp only [bareDirectory, Directory.ofEntries, List.foldr, Directory.Distinct,
      Directory.names, and_true]
    decide
  case payloads => rfl
  case temporary =>
    simp only [bareDirectory, Directory.ofEntries, List.foldr, Directory.names]
    decide
  case entryCount =>
    show (11 : Nat) + 1 ≤ _
    decide
  case fileCount => decide
  case walk =>
    have hwalk : (gatherDirectory [] (bareDirectory content) ⟨.empty, 0⟩).toOption.map
          (fun walk => walk.payloads.entries) =
        some (StagedFile.required.map fun file => (file.display, utf8 file.display)) := by
      -- the walk does not look at the contents
      simp only [bareDirectory, Directory.ofEntries, List.foldr, gatherDirectory]
      rfl
    obtain ⟨walk, hwalk, hentries⟩ := Option.map_eq_some_iff.mp hwalk
    exact ⟨walk, toOption_eq_some.mp hwalk, hentries⟩

/-- The directory with its inventory. -/
def bareBundle (hash : Bytes → Digest) (content : StagedFile → Bytes) : Directory :=
  stagedBundle hash (bareDirectory content) StagedFile.required content

theorem distinct_bareBundle (hash : Bytes → Digest) (content : StagedFile → Bytes) :
    (bareBundle hash content).Distinct :=
  (stagesFiles_bareDirectory content).distinct_stagedBundle

section

variable {hash : Bytes → Digest} {content : StagedFile → Bytes} {root : BundleRoot}

theorem fileAt_bareBundle (htree : root.tree = bareBundle hash content) (file : StagedFile) :
    root.fileAt file.display = if file ∈ StagedFile.required then some (content file) else none :=
  (stagesFiles_bareDirectory content).fileAt htree file

theorem inventoryPhase_bareBundle (htree : root.tree = bareBundle hash content)
    (hsizes : ∀ file ∈ StagedFile.required,
      isAbove (retainedLimit file.display) (content file).length = false) :
    (inventoryPhase hash root).isOk = true :=
  (stagesFiles_bareDirectory content).inventoryPhase htree hsizes

end

end Benchplane
