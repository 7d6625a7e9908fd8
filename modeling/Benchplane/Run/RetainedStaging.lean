import Benchplane.Run.ProducedRecords
import Benchplane.Run.Publication
import Benchplane.Runtime.SupervisorResults
import Benchplane.Schema.RecordTexts

/-!
# Retained staging

A run that fails behind its allocation keeps its staging directory, and that directory
is not evidence.  Either it has no inventory, or the clean-up has replaced the run record
for which the inventory was made: the record there tells of a failure in a phase behind
the inventory, the one in the inventory of none or of one while running.
-/

namespace Benchplane

open Library

/-! ## The run record in a past -/

section

variable (layout : Layout)

/-- The run record that an operation writes or puts in place. -/
def Operation.run? : Operation → Option RunRecord
  | .writeRecord path (.run record) => if path = layout.temporary .run then some record else none
  | .placeRecord _ path (.run record) => if path = layout.path .run then some record else none
  | _ => none

/-- The newest attempt at a step of a write of the run record. -/
def newestRunWrite (past : Past) : Option (Attempt FileTree Operation) :=
  past.find? fun attempt => (attempt.label.run? layout).isSome

/-- The last write of the run record has gone through to its last step. -/
def FinalRunWritten (past : Past) : Prop :=
  ∃ attempt, newestRunWrite layout past = some attempt ∧ attempt.succeeded = true ∧
    (attempt.label.placedRun? layout).isSome = true

/-- The run record has had this content. -/
def RunJsonAt (past : Past) (content : Bytes) : Prop :=
  ∃ attempt ∈ past, attempt.after.lookup (layout.path .run) = some (.file content)

/-- The hash tells the contents apart that the run record has had. -/
def NoRunCollision (hash : Bytes → Digest) (past : Past) : Prop :=
  ∀ content content', RunJsonAt layout past content → RunJsonAt layout past content' →
    hash content = hash content' → content = content'

end

section

variable {layout : Layout} {past : Past} {attempt : Attempt FileTree Operation}
  {record : RunRecord}

theorem Operation.run?_of_placedRun? {label : Operation}
    (h : label.placedRun? layout = some record) : label.run? layout = some record := by
  unfold Operation.placedRun? at h
  split at h
  · exact h
  · contradiction

theorem newestRunWrite_of_written (h : (attempt.label.run? layout).isSome = true) :
    newestRunWrite layout (attempt :: past) = some attempt :=
  List.find?_cons_of_pos h

theorem newestRunWrite_of_quiet (h : attempt.label.run? layout = none) :
    newestRunWrite layout (attempt :: past) = newestRunWrite layout past :=
  List.find?_cons_of_neg (by simp [h])

/-- A newest write that has gone through gives the run record put in place last. -/
theorem latestRun?_of_newest (hnewest : newestRunWrite layout past = some attempt)
    (hsucceeded : attempt.succeeded = true)
    (hplaced : attempt.label.placedRun? layout = some record) :
    latestRun? layout past = some record := by
  induction past with
  | nil => contradiction
  | cons newer older ih =>
      by_cases hrun : (newer.label.run? layout).isSome = true
      · rw [newestRunWrite_of_written hrun] at hnewest
        obtain rfl := Option.some.inj hnewest
        exact latestRun?_of_placed hsucceeded hplaced
      · have hnone : newer.label.run? layout = none := by simpa using hrun
        have hquiet : newer.label.placedRun? layout = none := by
          cases hplacedRun : newer.label.placedRun? layout with
          | none => rfl
          | some other =>
              rw [Operation.run?_of_placedRun? hplacedRun] at hnone
              contradiction
        rw [latestRun?_of_quiet (Or.inr hquiet)]
        rw [newestRunWrite_of_quiet hnone] at hnewest
        exact ih hnewest

theorem RunJsonAt.cons {content : Bytes} (h : RunJsonAt layout past content)
    (attempt : Attempt FileTree Operation) : RunJsonAt layout (attempt :: past) content := by
  obtain ⟨older, hmem, hcontent⟩ := h
  exact ⟨older, List.mem_cons_of_mem _ hmem, hcontent⟩

end

/-! ## The inventory in the staging directory -/

/-- The content of a file, where there is one. -/
def fileText (path : List FileName) (disk : FileTree) : Option Bytes :=
  match disk.lookup path with
  | some (.file content) => some content
  | _ => none

/-- The text of the staged inventory, where there is one. -/
def inventoryText (layout : Layout) : FileTree → Option Bytes :=
  fileText (layout.staging ++ [checksumFileName])

/-- The run is allocated, and the attempt made last has left the disk as it is. -/
def Recorded (layout : Layout) (w : DiskWorld) : Prop :=
  (∃ attempt older, w.history = attempt :: older ∧ attempt.after = w.store) ∧
    Allocated layout w.history

theorem Recorded.cons {layout : Layout} {w : DiskWorld} (h : Recorded layout w)
    (label : Operation) (succeeded : Bool) (tree : FileTree) (n : Nat) :
    Recorded layout ⟨tree, n, ⟨label, succeeded, tree⟩ :: w.history⟩ :=
  ⟨⟨_, _, rfl, rfl⟩, h.2.cons⟩

/-- The disk is recorded, and a condition holds of the inventory and the past. -/
def Retains (layout : Layout) (P : Option Bytes → Past → Prop) (w : DiskWorld) : Prop :=
  Recorded layout w ∧ P (inventoryText layout w.store) w.history

/-- A condition that one more attempt does not end. -/
def Lasting (P : Option Bytes → Past → Prop) : Prop :=
  ∀ text (attempt : Attempt FileTree Operation) past, P text past → P text (attempt :: past)

/-- There is no inventory yet. -/
def NotSealed (text : Option Bytes) (_ : Past) : Prop := text = none

/-- The inventory declares the content of a run record that the run has had. -/
structure Declares (hash : Bytes → Digest) (layout : Layout) (record : RunRecord)
    (text : Option Bytes) (past : Past) : Prop where
  declared : ∃ sums, text = some sums ∧
    ((hash (jsonBytes record.toJson)).hex, StagedFile.run.display) ∈ declarations sums
  shown : RunJsonAt layout past (jsonBytes record.toJson)

/-- A run record that does not tell of a failure in the phase. -/
def Predates (phase : String) (record : RunRecord) : Prop :=
  ∀ failure, record.failure = some failure → failure.phase ≠ phase

/-- There is no inventory, or it declares a run record from before the phase. -/
def Stale (hash : Bytes → Digest) (layout : Layout) (phase : String) (text : Option Bytes)
    (past : Past) : Prop :=
  text = none ∨ ∃ record, Declares hash layout record text past ∧ Predates phase record

section

variable {hash : Bytes → Digest} {layout : Layout} {P : Option Bytes → Past → Prop}

theorem lasting_notSealed : Lasting NotSealed := fun _ _ _ h => h

theorem lasting_declares {record : RunRecord} : Lasting (Declares hash layout record) :=
  fun _ attempt _ h => ⟨h.declared, h.shown.cons attempt⟩

theorem lasting_stale {phase : String} : Lasting (Stale hash layout phase) := by
  rintro text attempt past (hnone | ⟨record, hdeclares, hpredates⟩)
  · exact Or.inl hnone
  · exact Or.inr ⟨record, lasting_declares _ attempt _ hdeclares, hpredates⟩

theorem fileText_eq_some {path : List FileName} {disk : FileTree} {content : Bytes} :
    fileText path disk = some content ↔ disk.lookup path = some (.file content) := by
  unfold fileText
  split
  · rename_i found hfound
    simp [hfound]
  · rename_i hnot
    constructor
    · intro h
      contradiction
    · intro h
      exact absurd h (hnot content)

theorem inventoryText_eq_some {disk : FileTree} {sums : Bytes} :
    inventoryText layout disk = some sums ↔
      disk.lookup (layout.staging ++ [checksumFileName]) = some (.file sums) :=
  fileText_eq_some

theorem inventoryText_congr {disk disk' : FileTree}
    (h : ∀ sums, disk'.lookup (layout.staging ++ [checksumFileName]) = some (.file sums) ↔
      disk.lookup (layout.staging ++ [checksumFileName]) = some (.file sums)) :
    inventoryText layout disk' = inventoryText layout disk := by
  apply Option.ext
  intro sums
  exact inventoryText_eq_some.trans ((h sums).trans inventoryText_eq_some.symm)

/-- One more attempt with the same inventory. -/
theorem Retains.cons (hP : Lasting P) {w : DiskWorld} (h : Retains layout P w)
    (label : Operation) (succeeded : Bool) {tree : FileTree}
    (hsame : inventoryText layout tree = inventoryText layout w.store) (n : Nat) :
    Retains layout P ⟨tree, n, ⟨label, succeeded, tree⟩ :: w.history⟩ := by
  refine ⟨h.1.cons label succeeded tree n, ?_⟩
  show P (inventoryText layout tree) _
  rw [hsame]
  exact hP _ _ _ h.2

/-- Attempts that leave the inventory alone. -/
theorem respects_retains (hP : Lasting P) {scope : List (List FileName)}
    (hsame : ∀ (operation : FileOperation) disk tree, (∀ path ∈ operation.scope, path ∈ scope) →
      operation.apply disk = .ok tree → inventoryText layout tree = inventoryText layout disk) :
    Respects scope (Retains layout P) where
  performed w label operation tree h _ hscope happly :=
    h.cons hP label true (hsame operation w.store tree hscope happly) _
  refused _ label h _ := h.cons hP label false rfl _
  read _ path h := h.cons hP (.read path) true rfl _
  clock _ _ h := h

/-- The inventory and its temporary file are apart from the staged files. -/
theorem Layout.temporary_apart_checksums (layout : Layout) (file : StagedFile) :
    Apart (layout.temporary file) (layout.staging ++ [checksumFileName]) := by
  apply apart_append
  cases file <;> decide

/-- No step before the inventory changes the staged inventory. -/
theorem undisturbed_retains (hP : Lasting P) : Undisturbed layout (Retains layout P) where
  respects scope hscope := by
    apply respects_retains hP
    intro operation disk tree hpaths happly
    apply inventoryText_congr
    intro sums
    rw [FileTree.lookup_apply_within happly]
    intro path hpath
    rcases hscope path (hpaths path hpath) with rfl | ⟨file, rfl | rfl⟩
    · exact Or.inl rfl
    · exact Or.inr ⟨List.prefix_append _ _, layout.temporary_apart_checksums file⟩
    · have hapart := (layout.checksums_apart file).1
      exact Or.inr ⟨List.prefix_append _ _, hapart.2, hapart.1⟩
  ensured w path tree h _ happly := by
    apply h.cons hP _ true
    exact inventoryText_congr fun sums => FileTree.lookup_file_ensureDirectory happly
  refused w label h := h.cons hP label false rfl _

end

/-! ## Writing the inventory -/

/-- A name of a payload fits a line of the inventory. -/
theorem StagedFile.fitsLine_display (file : StagedFile) :
    file.display ≠ "" ∧ FitsLine file.display ∧
      file.path.head? ≠ some checksumTemporaryName ∧ file.path.head? ≠ some checksumFileName := by
  unfold FitsLine
  cases file <;> decide

/-- A written inventory declares every payload with the digest of its bytes. -/
theorem WrittenInventory.declares {hash : Bytes → Digest} {path : List FileName} {d : Directory}
    {pending : PendingEvidenceDigest} {disk : FileTree}
    (h : WrittenInventory hash path d pending disk) (hd : d.Distinct) {file : StagedFile}
    {content : Bytes} (hcontent : d.lookup file.path = some (.file content)) :
    ((hash content).hex, file.display) ∈ declarations pending.absorbed := by
  obtain ⟨walk, hwalk, hlists⟩ := h.lists
  obtain ⟨hne, hfits, htemporary, hsums⟩ := file.fitsLine_display
  have ⟨entries, hentries, _⟩ := hlists
  have hcovers := covers_of_gatherDirectory hd hwalk hentries
  obtain ⟨entry, hentry, hname⟩ :=
    hcovers.exists_entry ((mem_payloadFiles hd).mpr ⟨hsums, hcontent⟩)
  have hdisplay : entry.1.1 = file.display :=
    utf8_injective (hname.trans file.utf8_display.symm)
  have hmem : entry.1 ∈ walk.payloads.entries := by
    rw [← hentries]
    exact List.mem_map.mpr ⟨entry, hentry, rfl⟩
  have hkeyed : entry.1.2 = utf8 entry.1.1 :=
    (gatherDirectory_finds hwalk).keyed (by simp [SortedMap.empty]) entry.1 hmem
  have hnames : entryNames entry.1.2 = some file.path := by
    rw [hkeyed, hdisplay, file.entryNames_display]
  rw [← hdisplay] at hne hfits ⊢
  exact hlists.declared hmem hnames htemporary hcontent hne hfits

section

variable {faults : Faults} {codec : Codec} {services : Services} {layout : Layout}
  {bytes : Bytes} {plan : ResolvedExperiment} {contents : StagedFile → Option Bytes}
  {record : RunRecord}

/-- What only grows with the past survives everything. -/
theorem respects_recorded {P : Past → Prop}
    (hP : ∀ (attempt : Attempt FileTree Operation) past, P past → P (attempt :: past))
    (scope : List (List FileName)) :
    Respects scope fun w => Recorded layout w ∧ P w.history where
  performed _ label _ tree h _ _ _ := ⟨h.1.cons label true tree _, hP _ _ h.2⟩
  refused w label h _ := ⟨h.1.cons label false w.store _, hP _ _ h.2⟩
  read w path h := ⟨h.1.cons (.read path) true w.store _, hP _ _ h.2⟩
  clock _ _ h := h

/-- The temporary file of the inventory is not the inventory. -/
theorem respects_retains_temporary {P : Option Bytes → Past → Prop} (hP : Lasting P) :
    Respects [layout.staging ++ [checksumTemporaryName]] (Retains layout P) := by
  apply respects_retains hP
  intro operation disk tree hpaths happly
  apply inventoryText_congr
  intro sums
  rw [FileTree.lookup_apply_frame happly]
  intro path hpath
  rw [List.mem_singleton.mp (hpaths path hpath)]
  exact apart_append (by decide : Apart [checksumTemporaryName] [checksumFileName])

/-- The inventory is made for the run record that is staged then, or is not there. -/
theorem triple_writeInventory_declares
    (hrun : contents .run = some (jsonBytes record.toJson)) :
    Triple faults
      (fun w (_ : RunLocals) => Retains layout NotSealed w ∧ Holds layout contents w.store)
      (writeInventory codec layout)
      (fun _ w _ => Retains layout (Declares codec.hash layout record) w)
      (Undone (Retains layout NotSealed)) := by
  apply Triple.mapError
  apply Triple.mapError
  rintro w v ⟨hretains, hholds⟩
  obtain ⟨d, hd⟩ := hholds.exists_directory hrun
  have hstaged : d.lookup StagedFile.run.path = some (.file (jsonBytes record.toJson)) := by
    have hlookup := hholds.lookup_directory hd .run
    rwa [hrun] at hlookup
  -- the `run.json` on the disk is the one that the inventory declares
  have hshown : RunJsonAt layout w.history (jsonBytes record.toJson) := by
    obtain ⟨attempt, older, hhistory, hafter⟩ := hretains.1.1
    refine ⟨attempt, by simp [hhistory], ?_⟩
    rw [hafter, hholds .run, hrun]
    rfl
  have hgrows : Keeps faults
      (fun w (_ : RunLocals) => Recorded layout w ∧
        RunJsonAt layout w.history (jsonBytes record.toJson))
      (writeChecksumFile codec.hash layout.staging) :=
    keeps_writeChecksumFile fun _ => respects_recorded
      (P := fun past => RunJsonAt layout past (jsonBytes record.toJson))
      (fun attempt _ h => h.cons attempt) _
  -- an inventory that could not be written is not there
  have hrefused : Triple faults (fun w (_ : RunLocals) => Retains layout NotSealed w)
      (writeChecksumFile codec.hash layout.staging) (fun _ _ _ => True)
      (fun _ w _ => Retains layout NotSealed w) :=
    triple_writeChecksumFile_refused (respects_retains_temporary lasting_notSealed)
      (undisturbed_retains lasting_notSealed).refused
  refine ((triple_writeChecksumFile.and (hgrows.and hrefused)) w v
    ⟨hd, ⟨hretains.1, hshown⟩, hretains⟩).mono ?_ ?_
  · rintro pending w' _ ⟨hwritten, ⟨hrecorded, hshown'⟩, -⟩
    refine ⟨hrecorded, ⟨pending.absorbed, ?_, ?_⟩, hshown'⟩
    · rw [inventoryText_eq_some, FileTree.lookup_append, hwritten.placed]
      exact lookup_sums_writtenTree d pending.absorbed
    · exact hwritten.declares (w.store.distinct.lookup hd) hstaged
  · rintro error w' _ ⟨-, -, hretains'⟩
    exact hretains'

/-! ## The failure of the execution -/

/-- A failure while running. -/
def FailureRecord.IsRunning (failure : FailureRecord) : Prop := failure.phase = "running"

theorem respects_const (p : Prop) (scope : List (List FileName)) :
    Respects scope fun _ => p where
  performed _ _ _ _ h _ _ _ := h
  refused _ _ h _ := h
  read _ _ h := h
  clock _ _ h := h

/-- Writing a payload does not change the locals. -/
theorem keeps_locals_writePayload {Q : RunLocals → Prop} {file : StagedFile} {payload : Record} :
    Keeps faults (fun _ v => Q v) (writePayload codec.formatFloat layout file payload) :=
  keeps_writeJsonAtomic fun v => respects_const (Q v) _

theorem keeps_locals_writeRunRecord {Q : RunLocals → Prop} :
    Keeps faults (fun _ v => Q v) (writeRunRecord codec layout) :=
  Keeps.andThen Keeps.get fun _ => keeps_locals_writePayload

/-- A transition to a terminal state leaves its failure in the run record. -/
theorem triple_transition_failure {target : RunState} {failure : Option FailureRecord} :
    Triple faults (fun _ _ => True) (persistRunTransition codec services layout target failure)
      (fun _ _ v => target.isTerminal = true → v.runRecord.failure = failure)
      (fun _ _ _ => True) := by
  unfold persistRunTransition
  refine Triple.via (fun _ _ _ => True) (fun _ _ h => h) fun recordedAt => ?_
  refine Triple.via (fun _ _ _ => True) (fun _ _ h => h) fun locals => ?_
  refine Triple.via (fun _ _ _ => True)
    (Triple.ofExcept (fun _ _ _ _ h => h) fun _ _ _ _ h => h) fun step => ?_
  obtain ⟨event, lifecycle⟩ := step
  refine Triple.via (fun _ _ _ => True) (Triple.modify fun _ _ h => h) fun _ => ?_
  refine Triple.via (fun _ _ _ => True)
    (Disk.triple_performAs (fun _ _ _ h _ => h) fun _ _ _ h => h) fun _ => ?_
  refine Triple.via
    (fun _ _ (v : RunLocals) => target.isTerminal = true → v.runRecord.failure = failure)
    (Triple.modify fun w v _ hterminal => ?_) fun _ => ?_
  · simp [RunRecord.advance, hterminal]
  · exact keeps_locals_writeRunRecord.failing fun _ _ _ _ => trivial

/-- The finalized run record carries the failure of the execution. -/
theorem triple_finalize_failure {execution : ExecutionOutput} {validity : ValidityResult}
    {summary : RunSummary} (hterminal : execution.terminalState.isTerminal = true) :
    Triple faults (fun _ _ => True)
      (finalize codec services layout plan execution validity summary)
      (fun _ _ v => v.runRecord.failure = execution.failure) (fun _ _ _ => True) := by
  apply Triple.mapError
  refine Triple.via (fun _ _ _ => True)
    (triple_transition_failure.conseq (fun _ _ h => h) (fun _ _ _ _ => trivial)
      fun _ _ _ h => h) fun _ => ?_
  refine Triple.via (fun _ _ (v : RunLocals) => v.runRecord.failure = execution.failure)
    (triple_transition_failure.conseq (fun _ _ h => h) (fun _ _ _ h => h hterminal)
      fun _ _ _ h => h) fun _ => ?_
  refine Triple.andThen (keeps_locals_writePayload.failing fun _ _ _ _ => trivial) fun _ => ?_
  refine Triple.andThen (keeps_locals_writePayload.failing fun _ _ _ _ => trivial) fun _ => ?_
  exact keeps_locals_writePayload.failing fun _ _ _ _ => trivial

/-! ## From the terminal attempt to the failure -/

/-- What a failing run leaves to its clean-up. -/
def LeavesStale (codec : Codec) (layout : Layout) (failure : AllocatedFailure) (w : DiskWorld)
    (_ : RunLocals) : Prop :=
  Retains layout (Stale codec.hash layout failure.phase) w

theorem leavesStale_of_notSealed (failure : AllocatedFailure) (w : DiskWorld) (v : RunLocals)
    (h : Retains layout NotSealed w) : LeavesStale codec layout failure w v :=
  ⟨h.1, Or.inl h.2⟩

/-- A failure behind the inventory. -/
theorem leavesStale_of_declares {failure : AllocatedFailure} {w : DiskWorld} {v : RunLocals}
    (hpredates : Predates failure.phase record)
    (h : Retains layout (Declares codec.hash layout record) w) :
    LeavesStale codec layout failure w v :=
  ⟨h.1, Or.inr ⟨record, h.2, hpredates⟩⟩

/-- The verifier reads only. -/
theorem triple_verify_stale (hpredates : Predates "verifying" record) :
    Triple faults (fun w _ => Retains layout (Declares codec.hash layout record) w)
      (verify codec layout)
      (fun _ w _ => Retains layout (Declares codec.hash layout record) w)
      (LeavesStale codec layout) := by
  have hread : Respects [] (Retains layout (Declares codec.hash layout record)) :=
    (undisturbed_retains lasting_declares).respects [] (by simp)
  have hkeeps : Keeps faults
      (fun w (_ : RunLocals) => Retains layout (Declares codec.hash layout record) w)
      ((Disk.read layout.staging (.read (displayPath layout.staging))
        (verifyEvidenceBundle codec layout.staging)).mapError RunError.evidence) :=
    Keeps.mapError (Disk.keeps_read fun _ => hread)
  apply Triple.mapError
  refine Triple.andThen (hkeeps.failing fun error w v h => ?_) fun _ _ _ h => h
  exact leavesStale_of_declares hpredates h

/-- A publication that fails has not moved the staging directory. -/
theorem triple_publish_stale (hpredates : Predates "publishing" record) :
    Triple faults (fun w _ => Retains layout (Declares codec.hash layout record) w)
      (publish layout) (fun _ _ _ => True) (LeavesStale codec layout) := by
  have hinv : Undisturbed layout (Retains layout (Declares codec.hash layout record)) :=
    undisturbed_retains lasting_declares
  have hread : Respects [] (Retains layout (Declares codec.hash layout record)) :=
    hinv.respects [] (by simp)
  have hleaves : ∀ error w v, Retains layout (Declares codec.hash layout record) w →
      LeavesStale codec layout ⟨"publishing", error⟩ w v := by
    intro error w v h
    exact leavesStale_of_declares hpredates h
  apply Triple.mapError
  refine Triple.andThen (Disk.triple_pathExists fun _ => hread) fun conflict => ?_
  refine Triple.via (fun _ w _ => Retains layout (Declares codec.hash layout record) w)
    (Triple.when (fun _ w v h => hleaves _ w v h) fun _ _ _ h => h) fun _ => ?_
  apply Disk.triple_performAs
  · intro w v tree _ _
    trivial
  · intro w v error h
    exact hleaves _ _ v (hinv.refused w _ h)

/-- From the terminal attempt on, the inventory is made for a run record without a failure
of the phases behind it. -/
theorem triple_publishEvidence_stale {execution : ExecutionOutput} {validity : ValidityResult}
    {summary : RunSummary} {executed : StagedFile → Option Bytes} {state : RunState}
    {status : AttemptStatus} (hterminal : execution.terminalState.isTerminal = true)
    (hrunning : ∀ failure, execution.failure = some failure → failure.IsRunning) :
    Triple faults (Staged layout plan (Retains layout NotSealed) executed state status)
      (publishEvidence codec services layout plan execution validity summary)
      (fun _ _ _ => True) (LeavesStale codec layout) := by
  have hfinalize : Triple faults
      (Staged layout plan (Retains layout NotSealed) executed state status)
      (finalize codec services layout plan execution validity summary)
      (fun _ w v => Staged layout plan (Retains layout NotSealed)
        (finalContents layout plan executed execution validity summary) execution.terminalState
        status w v ∧ v.runRecord.failure = execution.failure)
      (LeavesStale codec layout) :=
    ((staged_finalize (undisturbed_retains lasting_notSealed)).and
      (triple_finalize_failure hterminal)).conseq (fun _ _ h => ⟨h, trivial⟩) (fun _ _ _ h => h)
      fun failure w v h => leavesStale_of_notSealed failure w v h.1
  refine Triple.andThen hfinalize fun _ => ?_
  rintro w v ⟨hstaged, hfailure⟩
  obtain ⟨events, provenance, -, hholds⟩ := hstaged.holds
  -- what the run itself failed with has another phase than the failure that follows
  have hpredates : ∀ phase, phase ≠ "running" → Predates phase v.runRecord := by
    intro phase hne failure hsome
    have hphase : failure.phase = "running" := hrunning failure (hfailure.symm.trans hsome)
    exact fun hsame => hne (hsame.symm.trans hphase)
  refine (Triple.andThen ((triple_writeInventory_declares rfl).failing
    leavesStale_of_notSealed) fun pending => ?_) w v ⟨hstaged.kept, hholds⟩
  refine Triple.andThen (triple_verify_stale (hpredates _ (by decide))) fun _ => ?_
  refine Triple.andThen (triple_publish_stale (hpredates _ (by decide))) fun _ => ?_
  exact fun _ _ _ => trivial

/-! ## The clean-up -/

/-- The newest write of the run record carries a failure of the phase. -/
def TellsFailure (layout : Layout) (phase : String) (past : Past) : Prop :=
  ∃ attempt record failure, newestRunWrite layout past = some attempt ∧
    attempt.label.run? layout = some record ∧ record.failure = some failure ∧
    failure.phase = phase

theorem run?_eq_none {label : Operation} (hpath : layout.path .run ∉ label.scope)
    (htemporary : layout.temporary .run ∉ label.scope) : label.run? layout = none := by
  unfold Operation.run?
  split
  · refine if_neg fun hsame => htemporary ?_
    simp [Operation.scope, hsame]
  · refine if_neg fun hsame => hpath ?_
    simp [Operation.scope, hsame]
  · rfl

/-- An attempt at another file. -/
theorem TellsFailure.cons {phase : String} {past : Past} (h : TellsFailure layout phase past)
    {attempt : Attempt FileTree Operation} (hquiet : attempt.label.run? layout = none) :
    TellsFailure layout phase (attempt :: past) := by
  obtain ⟨newest, record, failure, hnewest, hrest⟩ := h
  exact ⟨newest, record, failure, (newestRunWrite_of_quiet hquiet).trans hnewest, hrest⟩

/-- An attempt at the run record of the clean-up. -/
theorem tellsFailure_of_written {past : Past} {attempt : Attempt FileTree Operation}
    {failure : FailureRecord} (hrun : attempt.label.run? layout = some record)
    (hfailure : record.failure = some failure) :
    TellsFailure layout failure.phase (attempt :: past) :=
  ⟨attempt, record, failure, newestRunWrite_of_written (by simp [hrun]), hrun, hfailure, rfl⟩

/-- From its first step on, whatever fails, the write of the run record is the newest. -/
theorem triple_writeRunRecord_tells {failure : FailureRecord} :
    Triple faults (fun _ v => v.runRecord.failure = some failure) (writeRunRecord codec layout)
      (fun _ w _ => TellsFailure layout failure.phase w.history)
      (fun _ w _ => TellsFailure layout failure.phase w.history) := by
  unfold writeRunRecord
  refine Triple.via (fun (found : RunLocals) _ _ => found.runRecord.failure = some failure)
    (fun _ _ h => h) fun found => ?_
  rintro w v hfailure
  refine (triple_writeJsonAtomic (fun _ _ => True)
    (fun w _ => TellsFailure layout failure.phase w.history)
    (fun _ w _ => TellsFailure layout failure.phase w.history)
    (layout.temporary_apart .run .run) ?_ ?_ ?_ ?_) w v trivial
  · intro w v succeeded tree _ _
    exact tellsFailure_of_written (if_pos rfl) hfailure
  · intro w v succeeded tree _ _
    exact tellsFailure_of_written (if_pos rfl) hfailure
  · intro w v tree _ _ _
    exact tellsFailure_of_written (if_pos rfl) hfailure
  · intro w v _
    exact tellsFailure_of_written (if_pos rfl) hfailure

/-- The attempt record is another file. -/
theorem keeps_tells_writeAttemptRecord {phase : String} :
    Keeps faults (fun w (_ : RunLocals) => TellsFailure layout phase w.history)
      (writeAttemptRecord codec layout) := by
  -- the attempt record and its temporary file are not those of `run.json`
  have hscope : ∀ path ∈ [layout.temporary .attempt, layout.path .attempt],
      path ≠ layout.path .run ∧ path ≠ layout.temporary .run := by
    intro path hpath
    simp only [List.mem_cons, List.not_mem_nil, or_false] at hpath
    rcases hpath with rfl | rfl
    · exact ⟨(layout.temporary_apart .attempt .run).ne, layout.temporary_ne (by simp)⟩
    · exact ⟨(layout.path_apart (by simp)).ne, (layout.temporary_apart .run .attempt).ne.symm⟩
  have hquiet : ∀ label : Operation,
      (∀ path ∈ label.scope, path ∈ [layout.temporary .attempt, layout.path .attempt]) →
      label.run? layout = none := by
    intro label hlabel
    exact run?_eq_none (fun hmem => (hscope _ (hlabel _ hmem)).1 rfl)
      fun hmem => (hscope _ (hlabel _ hmem)).2 rfl
  refine Keeps.andThen Keeps.get fun locals => keeps_writeJsonAtomic fun _ => ?_
  constructor
  · intro w label operation tree h hlabel hpaths _
    exact h.cons (hquiet label fun path hpath => hpaths path (hlabel ▸ hpath))
  · intro w label h hpaths
    exact h.cons (hquiet label hpaths)
  · intro w path h
    exact h.cons rfl
  · intro w n h
    exact h

/-- The clean-up writes the failure into the run record, or tries to. -/
theorem triple_cleanup_tells {ε : Type} {phase message : String}
    {failed : ε → DiskWorld → RunLocals → Prop} :
    Triple faults (fun _ _ => True)
      (persistAllocatedFailure codec services layout phase message)
      (fun _ w _ => TellsFailure layout phase w.history) failed := by
  have htransition : ∀ target failure, Triple faults (fun _ _ => True)
      (ignoring (persistRunTransition codec services layout target failure))
      (fun _ _ _ => True) failed := fun target failure =>
    triple_ignored (triple_transition_failure.conseq (fun _ _ h => h)
      (fun _ _ _ _ => trivial) fun _ _ _ h => h)
  unfold persistAllocatedFailure
  refine Triple.via (fun _ _ _ => True) (fun _ _ h => h) fun locals => ?_
  refine Triple.via (fun _ _ _ => True)
    (Triple.when (fun _ => htransition _ _) fun _ _ _ h => h) fun _ => ?_
  refine Triple.via (fun _ _ _ => True) (fun _ _ h => h) fun locals => ?_
  refine Triple.via (fun _ _ _ => True)
    (Triple.when (fun _ => htransition _ _) fun _ _ _ h => h) fun _ => ?_
  refine Triple.via (fun _ _ _ => True) (Triple.now fun _ _ h => h) fun updatedAt => ?_
  refine Triple.via (fun _ _ (v : RunLocals) => v.runRecord.failure =
    some ⟨phase, allocatedFailureCode phase, message, false, 1⟩)
    (Triple.modify fun _ _ _ => rfl) fun _ => ?_
  refine Triple.via (fun _ w _ => TellsFailure layout phase w.history)
    (triple_ignored triple_writeRunRecord_tells) fun _ => ?_
  exact triple_ignored keeps_tells_writeAttemptRecord

/-! ## Every run -/

/-- What a failure behind the allocation leaves. -/
def LeavesRetained (codec : Codec) (layout : Layout) (error : RunError) (w : DiskWorld) : Prop :=
  ∀ runId phase path source, error = .allocated runId phase path source →
    Retains layout (Stale codec.hash layout phase) w ∧ TellsFailure layout phase w.history

/-- Parents are made before the allocation. -/
theorem triple_createParent_io {ρ : Type} {path : List FileName} :
    Triple faults (fun _ (_ : ρ) => True) (createDirectory path) (fun _ _ _ => True)
      (fun error w _ => LeavesRetained codec layout error w) := by
  refine Triple.forEach (fun _ _ _ _ => True) fun done ancestor rest _ => ?_
  apply Disk.triple_performAs
  · intro w v tree _ _
    trivial
  · intro w v error _ runId phase path source hsame
    contradiction

/-- A new staging directory has no inventory. -/
theorem inventoryText_of_createDirectory {disk tree : FileTree}
    (happly : (FileOperation.createDirectory layout.staging).apply disk = .ok tree) :
    inventoryText layout tree = none := by
  obtain ⟨-, hcreated⟩ := FileTree.lookup_createDirectory_self happly
  unfold inventoryText fileText
  rw [FileTree.lookup_append, hcreated]
  rfl

/-- A run behind its allocation publishes, or leaves what its clean-up has made of it. -/
theorem triple_allocatedRun_retained {kind : ExecutionKind} (hkind : IsExecutable plan kind)
    {createdAt : String} :
    Triple faults
      (Shows layout (Retains layout NotSealed) (fun _ => none)
        (initialLocals plan layout.runId.text createdAt))
      (allocatedRun codec services layout bytes plan kind
        (Lifecycle.new layout.runId.text createdAt 1).2)
      (fun _ _ _ => True) (fun error w _ => LeavesRetained codec layout error w) := by
  have hterminal : (executeRuntime codec services plan kind).terminalState.isTerminal = true :=
    executeRuntime_terminal
  have hattempt : Triple faults
      (Shows layout (Retains layout NotSealed) (fun _ => none)
        (initialLocals plan layout.runId.text createdAt))
      (attemptRun codec services layout bytes plan kind
        (Lifecycle.new layout.runId.text createdAt 1).2)
      (fun _ _ _ => True) (LeavesStale codec layout) :=
    staged_attemptRun_failing (undisturbed_retains lasting_notSealed) hkind rfl
      leavesStale_of_notSealed fun validity ended _ _ =>
        triple_publishEvidence_stale hterminal fun failure h =>
          (isDeclared_executeRuntime h).phase
  refine Triple.recover hattempt fun failure => ?_
  -- the clean-up does not fail, so it is left in one way only
  have hstale : Triple faults
      (fun w (_ : RunLocals) => Retains layout (Stale codec.hash layout failure.phase) w)
      (persistAllocatedFailure codec services layout failure.phase failure.source.text)
      (fun _ w _ => Retains layout (Stale codec.hash layout failure.phase) w)
      (fun (_ : RunError) _ _ => False) := triple_cleanup (undisturbed_retains lasting_stale)
  have htells : Triple faults (fun _ _ => True)
      (persistAllocatedFailure codec services layout failure.phase failure.source.text)
      (fun _ w _ => TellsFailure layout failure.phase w.history)
      (fun (_ : RunError) _ _ => False) := triple_cleanup_tells
  refine Triple.andThen ((hstale.and htells).conseq (fun _ _ h => ⟨h, trivial⟩)
    (fun _ _ _ h => h) fun _ _ _ h => h.1.elim) fun _ w v h => ?_
  intro runId phase path source hsame
  obtain ⟨-, rfl, -, -⟩ := RunError.allocated.inj hsame
  exact h

/-- A run from its beginning. -/
theorem triple_runExperiment_retained (outputRoot : List FileName) :
    Triple faults (fun _ trace => trace.idsDrawn = 0)
      (runExperiment codec services outputRoot bytes) (fun _ _ _ => True)
      (fun error w _ => LeavesRetained codec (services.layout outputRoot) error w) := by
  unfold runExperiment
  refine Triple.via (fun request _ trace => IsExecutable request.1 request.2 ∧
      trace.idsDrawn = 0) (Triple.ofExcept ?_ ?_) fun request => ?_
  · rintro ⟨plan, kind⟩ haccept w trace hdrawn
    exact ⟨isExecutable_of_acceptRequest haccept, hdrawn⟩
  -- a rejected request has allocated nothing
  · intro error herror w trace _ runId phase path source hsame
    have hrejected := acceptRequest_eq_error herror
    rw [hsame] at hrejected
    contradiction
  obtain ⟨plan, kind⟩ := request
  rintro w trace ⟨hkind, hdrawn⟩
  unfold acceptedRun
  refine (?_ : Triple faults (fun _ (trace : RunTrace) => trace.idsDrawn = 0) _ _ _) w trace
    hdrawn
  refine Triple.via (fun runId _ _ => runId = services.nextRunId 0) ?_ fun runId => ?_
  · intro w trace hfirst
    rw [← hfirst]
    rfl
  rintro w trace rfl
  refine (?_ : Triple faults (fun _ _ => True) _ _ _) w trace trivial
  -- failing to create a parent is no failure of an allocated run either
  refine Triple.andThen triple_createParent_io fun _ => ?_
  refine Triple.andThen triple_createParent_io fun _ => ?_
  refine Triple.via (fun _ w _ => Retains (services.layout outputRoot) NotSealed w ∧
    Holds (services.layout outputRoot) (fun _ => none) w.store) ?_ fun _ => ?_
  · apply Disk.triple_performAs
    · intro w trace tree _ happly
      exact ⟨⟨⟨⟨_, _, rfl, rfl⟩, _, List.mem_cons_self, rfl, _, rfl, rfl⟩,
        inventoryText_of_createDirectory happly⟩, holds_of_createDirectory happly⟩
    · intro w trace error _ runId phase path source hsame
      contradiction
  refine Triple.via (fun _ w _ => Retains (services.layout outputRoot) NotSealed w ∧
      Holds (services.layout outputRoot) (fun _ => none) w.store)
    (Triple.now fun w trace h => h) fun createdAt => ?_
  apply Triple.nested
  intro trace
  refine (triple_allocatedRun_retained hkind).conseq ?_ (fun _ _ _ h => h) fun _ _ _ h => h
  rintro w v ⟨rfl, hretains, hholds⟩
  exact ⟨rfl, hretains, hholds⟩

/-! ## The verifier on what is left -/

/-- Where the verifier accepts, a declared payload is there with its digest. -/
theorem hashed_of_verified {disk : FileTree} {manifest : EvidenceManifest}
    (h : verifyEvidenceBundle codec layout.staging disk = .ok manifest) :
    ∃ sums, inventoryText layout disk = some sums ∧
      ∀ (file : StagedFile) digest, (digest, file.display) ∈ declarations sums →
        ∃ content, disk.lookup (layout.path file) = some (.file content) ∧
          digest = (codec.hash content).hex := by
  simp only [verifyEvidenceBundle, bind_eq_ok_iff] at h
  obtain ⟨root, hroot, bundle, hbundle, -⟩ := h
  simp only [verifyEvidenceBundleData, bind_eq_ok_iff, checkMissing, checkAll_eq_ok,
    rejectIf_eq_ok, Decidable.not_not, Prod.exists] at hbundle
  obtain ⟨payloads, progress, hread, -, -, -, hmissing, -⟩ := hbundle
  obtain ⟨sums, hsums, hdescribes⟩ :=
    inventoryPhase_describes (inventoryPhase_eq_ok.mpr ⟨hread, hmissing⟩)
  obtain ⟨-, hstaging⟩ := canonicalBundleRoot_eq_ok hroot
  refine ⟨sums, ?_, fun file digest hdeclared => ?_⟩
  · rw [inventoryText_eq_some, FileTree.lookup_append, hstaging]
    exact hsums
  · obtain ⟨names, content, hpayload, hpath, hdigest⟩ := hdescribes.digests _ hdeclared
    obtain rfl : names = file.path := relativePath_injective hpayload.ne_nil file.path_ne.2
      (hpath.symm.trans file.utf8_display)
    refine ⟨content, ?_, hdigest⟩
    rw [Layout.path, FileTree.lookup_append, hstaging]
    exact hpayload.2

/-- The staged run record is the one of the clean-up when its write has gone through. -/
theorem runRecord_of_written {phase : String} {w : DiskWorld} (hrecorded : Recorded layout w)
    (hsound : SoundThroughout layout w) (htells : TellsFailure layout phase w.history)
    (hwritten : FinalRunWritten layout w.history) {content : Bytes}
    (hcontent : w.store.lookup (layout.path .run) = some (.file content)) :
    ∃ (record : RunRecord) (failure : FailureRecord), content = jsonBytes record.toJson ∧
      record.failure = some failure ∧ failure.phase = phase := by
  obtain ⟨newest, record, failure, hnewest, hrun, hfailure, hphase⟩ := htells
  obtain ⟨other, hother, hsucceeded, hplaced⟩ := hwritten
  obtain rfl : newest = other := Option.some.inj (hnewest.symm.trans hother)
  obtain ⟨placed, hplaced⟩ := Option.isSome_iff_exists.mp hplaced
  obtain rfl : placed = record :=
    Option.some.inj ((Operation.run?_of_placedRun? hplaced).symm.trans hrun)
  obtain ⟨attempt, older, hhistory, hafter⟩ := hrecorded.1
  have hlast : Sound layout attempt.after (attempt :: older) :=
    hsound attempt older (hhistory ▸ List.suffix_rfl) (hhistory ▸ hrecorded.2)
  rw [hafter, ← hhistory] at hlast
  refine ⟨placed, failure, ?_, hfailure, hphase⟩
  rcases hlast.snapshot.1 with hnone | ⟨latest, hlatest, hstaged⟩
  · rw [hnone] at hcontent
    contradiction
  · rw [latestRun?_of_newest hnewest hsucceeded hplaced] at hlatest
    obtain rfl := Option.some.inj hlatest
    rw [hstaged] at hcontent
    exact (Node.file.inj (Option.some.inj hcontent)).symm

/-- A stale inventory does not fit the run record of the clean-up. -/
theorem not_verified_of_stale {phase : String} {w : DiskWorld}
    (hretains : Retains layout (Stale codec.hash layout phase) w)
    (htells : TellsFailure layout phase w.history) (hsound : SoundThroughout layout w)
    (hwritten : FinalRunWritten layout w.history)
    (hcollision : NoRunCollision layout codec.hash w.history) :
    ∃ failure, verifyEvidenceBundle codec layout.staging w.store = .error failure := by
  cases hverified : verifyEvidenceBundle codec layout.staging w.store with
  | error failure => exact ⟨failure, rfl⟩
  | ok manifest =>
      -- the inventory declares the `run.json` of its time, and the clean-up has written another
      -- since, with the failure it tells
      exfalso
      obtain ⟨sums, hsums, hhashed⟩ := hashed_of_verified hverified
      rcases hretains.2 with hnone | ⟨record, ⟨⟨sums', hsums', hdeclared⟩, hshown⟩, hpredates⟩
      · rw [hnone] at hsums
        contradiction
      obtain rfl : sums' = sums := Option.some.inj (hsums'.symm.trans hsums)
      obtain ⟨content, hcontent, hhex⟩ := hhashed .run _ hdeclared
      have hnow : RunJsonAt layout w.history content := by
        obtain ⟨attempt, older, hhistory, hafter⟩ := hretains.1.1
        exact ⟨attempt, by simp [hhistory], hafter ▸ hcontent⟩
      have hsame : jsonBytes record.toJson = content :=
        hcollision _ _ hshown hnow (Digest.hex_injective hhex)
      obtain ⟨cleaned, failure, hbytes, hfailure, hphase⟩ :=
        runRecord_of_written hretains.1 hsound htells hwritten hcontent
      have hrecord : record = cleaned :=
        jsonBytes_injective RunRecord.toJson_injective RunRecord.fits_toJson (hsame.trans hbytes)
      exact hpredates failure (hrecord ▸ hfailure) hphase

end

/-- The staging directory that a failed run retains is not evidence, as long as the last
write of the run record has gone through and the hash tells its contents apart. -/
theorem retained_staging_not_evidence (faults : Faults) (codec : Codec) (services : Services)
    (outputRoot : List FileName) (bytes : Bytes) (disk : FileTree)
    {runId phase : String} {stagingPath : Bytes} {source : RunError}
    (hfailed : (runOn codec services outputRoot bytes faults disk).outcome =
      .error (.allocated runId phase stagingPath source))
    (hwritten : FinalRunWritten (services.layout outputRoot)
      (runOn codec services outputRoot bytes faults disk).world.history)
    (hcollision : NoRunCollision (services.layout outputRoot) codec.hash
      (runOn codec services outputRoot bytes faults disk).world.history) :
    ∃ failure, verifyEvidenceBundle codec (services.layout outputRoot).staging
      (runOn codec services outputRoot bytes faults disk).world.store = .error failure := by
  have hend : (runOn codec services outputRoot bytes faults disk).Meets (fun _ _ _ => True)
      fun error w _ => LeavesRetained codec (services.layout outputRoot) error w :=
    triple_runExperiment_retained outputRoot ⟨disk, 0, []⟩ ⟨0, []⟩ rfl
  unfold Ended.Meets at hend
  rw [hfailed] at hend
  obtain ⟨hretains, htells⟩ := hend runId phase stagingPath source rfl
  exact not_verified_of_stale hretains htells
    (soundThroughout_runOn faults codec services outputRoot bytes disk) hwritten hcollision

/-- The contents that the run record of the sample has had. -/
def SampleRun.runTexts (place : Nat) : List Bytes :=
  (past place).filterMap fun attempt => fileText ((services.layout []).path .run) attempt.after

/-- When the experiment cannot be staged, the clean-up writes the only run record. -/
theorem retained_staging_not_evidence_sample :
    ∃ failure, verifyEvidenceBundle SampleRun.codec (SampleRun.services.layout []).staging
      (runOn SampleRun.codec SampleRun.services [] (utf8 SampleRun.document)
        (SampleRun.failingAt 7) .empty).world.store = .error failure := by
  have hall : ∀ text ∈ SampleRun.runTexts 7, text = (SampleRun.runTexts 7).headD [] := by
    have hsame : SampleRun.runTexts 7 = List.replicate 4 ((SampleRun.runTexts 7).headD []) := by
      rfl
    intro text htext
    rw [hsame] at htext
    exact List.eq_of_mem_replicate htext
  have hmem : ∀ content, RunJsonAt (SampleRun.services.layout []) (SampleRun.past 7) content →
      content ∈ SampleRun.runTexts 7 := by
    rintro content ⟨attempt, hattempt, hcontent⟩
    exact List.mem_filterMap.mpr ⟨attempt, hattempt, fileText_eq_some.mpr hcontent⟩
  have hcollision : NoRunCollision (SampleRun.services.layout []) SampleRun.codec.hash
      (SampleRun.past 7) := by
    intro content content' hcontent hcontent' _
    exact (hall _ (hmem _ hcontent)).trans (hall _ (hmem _ hcontent')).symm
  have hwritten : FinalRunWritten (SampleRun.services.layout []) (SampleRun.past 7) :=
    ⟨_, rfl, rfl, rfl⟩
  rw [← SampleRun.history_runOn] at hcollision hwritten
  have hfailed : ∃ runId phase stagingPath source,
      (runOn SampleRun.codec SampleRun.services [] (utf8 SampleRun.document)
        (SampleRun.failingAt 7) .empty).outcome =
          .error (.allocated runId phase stagingPath source) := by
    rw [runOn_of_accepted (SampleRun.accepted SampleRun.document)]
    exact ⟨_, _, _, _, rfl⟩
  obtain ⟨runId, phase, stagingPath, source, hfailed⟩ := hfailed
  exact retained_staging_not_evidence _ _ _ _ _ _ hfailed hwritten hcollision

end Benchplane
