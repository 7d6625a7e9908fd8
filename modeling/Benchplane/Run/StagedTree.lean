import Benchplane.Evidence.RecordFiles
import Benchplane.Run.Invariants
import Mathlib.Logic.Function.Basic

/-!
# The staged tree

What the staging directory holds behind each phase of a run that has not failed, byte
for byte, next to a condition that no phase disturbs.  The journal and the two records
follow the locals of the run, every other payload keeps the bytes it was given.
-/

namespace Benchplane

open Library

/-! ## What a run leaves alone -/

/-- A path that an allocated run changes before its inventory. -/
def Layout.IsStaged (layout : Layout) (path : List FileName) : Prop :=
  path = layout.staging ∨ ∃ file, path = layout.temporary file ∨ path = layout.path file

/-- A condition that no attempt of a run before its inventory disturbs, and no failing one
at all. -/
structure Undisturbed (layout : Layout) (inv : DiskWorld → Prop) : Prop where
  respects : ∀ scope, (∀ path ∈ scope, layout.IsStaged path) → Respects scope inv
  ensured : ∀ (w : DiskWorld) path tree, inv w → ¬ layout.finalPath <+: path →
    (FileOperation.ensureDirectory path).apply w.store = .ok tree →
    inv { w with
      store := tree, history := ⟨.change (.ensureDirectory path), true, tree⟩ :: w.history }
  refused : ∀ (w : DiskWorld) label, inv w →
    inv { w with history := ⟨label, false, w.store⟩ :: w.history }

namespace Layout

variable (layout : Layout)

theorem isStaged_path (file : StagedFile) : layout.IsStaged (layout.path file) :=
  Or.inr ⟨file, Or.inr rfl⟩

theorem isStaged_temporary (file : StagedFile) : layout.IsStaged (layout.temporary file) :=
  Or.inr ⟨file, Or.inl rfl⟩

theorem IsStaged.starts_staging {layout : Layout} {path : List FileName}
    (h : layout.IsStaged path) : layout.staging <+: path := by
  rcases h with rfl | ⟨file, rfl | rfl⟩
  · exact List.prefix_rfl
  · exact List.prefix_append _ _
  · exact List.prefix_append _ _

/-- Nothing in the staging directory leads to the final one. -/
theorem apart_finalPath {path : List FileName} (h : layout.staging <+: path) :
    Apart path layout.finalPath := by
  have hapart := layout.staging_apart_finalPath
  constructor
  · exact fun hpath => hapart.1 (h.trans hpath)
  · intro hfinal
    rcases List.prefix_or_prefix_of_prefix h hfinal with hleft | hright
    · exact hapart.1 hleft
    · exact hapart.2 hright

end Layout

/-- The final directory is not touched before the publication. -/
theorem undisturbed_finalPath (layout : Layout) (before : Option Node) :
    Undisturbed layout fun w => w.store.lookup layout.finalPath = before where
  respects scope hscope := by
    have hapart : ∀ other ∈ ({layout.finalPath} : Set (List FileName)), ∀ path ∈ scope,
        ¬ path <+: other ∧ ¬ other <+: path := by
      intro other hother path hpath
      rw [Set.mem_singleton_iff.mp hother]
      exact layout.apart_finalPath (hscope path hpath).starts_staging
    refine respects_frame hapart (fun disk => disk.lookup layout.finalPath = before) ?_
    intro disk disk' hsame hdisk
    rw [hsame _ (Set.mem_singleton _)]
    exact hdisk
  ensured w path tree h hpath happly := by
    show tree.lookup layout.finalPath = before
    rw [FileTree.lookup_ensureDirectory happly hpath]
    exact h
  refused _ _ h := h

/-! ## What the staging directory holds -/

/-- The payloads have the given bytes, and those without are not there. -/
def Holds (layout : Layout) (contents : StagedFile → Option Bytes) (disk : FileTree) : Prop :=
  ∀ file, disk.lookup (layout.path file) = (contents file).map Node.file

section

variable {layout : Layout} {contents : StagedFile → Option Bytes} {disk tree : FileTree}
  {file : StagedFile}

theorem Holds.of_same (h : Holds layout contents disk)
    (hsame : ∀ file, tree.lookup (layout.path file) = disk.lookup (layout.path file)) :
    Holds layout contents tree :=
  fun file => (hsame file).trans (h file)

/-- Writing one payload leaves the others. -/
theorem Holds.put (h : Holds layout contents disk) {bytes : Bytes}
    (hsame : SameApartFrom [layout.temporary file, layout.path file] disk tree)
    (hwritten : tree.lookup (layout.path file) = some (.file bytes)) :
    Holds layout (Function.update contents file (some bytes)) tree := by
  intro other
  by_cases hother : other = file
  · rw [hother, hwritten, Function.update_self]
    rfl
  · have hframe : tree.lookup (layout.path other) = disk.lookup (layout.path other) := by
      apply hsame
      intro path hpath
      simp only [List.mem_cons, List.not_mem_nil, or_false] at hpath
      rcases hpath with rfl | rfl
      · exact layout.temporary_apart file other
      · exact layout.path_apart (Ne.symm hother)
    rw [Function.update_of_ne hother, hframe]
    exact h other

/-- A new staging directory holds nothing. -/
theorem holds_of_createDirectory
    (happly : (FileOperation.createDirectory layout.staging).apply disk = .ok tree) :
    Holds layout (fun _ => none) tree := by
  intro file
  obtain ⟨-, hcreated⟩ := FileTree.lookup_createDirectory_self happly
  rw [Layout.path, FileTree.lookup_append, hcreated]
  cases file <;> rfl

/-- Where a payload is, there is the staging directory, with the payload below it. -/
theorem Holds.exists_directory (h : Holds layout contents disk) {bytes : Bytes}
    (hfile : contents file = some bytes) :
    ∃ d, disk.lookup layout.staging = some (.directory d) := by
  have hlookup := h file
  rw [hfile, Layout.path, FileTree.lookup_append] at hlookup
  cases hstaging : disk.lookup layout.staging with
  | none =>
      rw [hstaging] at hlookup
      contradiction
  | some node =>
      cases node with
      | directory d => exact ⟨d, rfl⟩
      | file content =>
          rw [hstaging] at hlookup
          cases file <;> contradiction
      | symlink resolves =>
          rw [hstaging] at hlookup
          cases file <;> contradiction
      | special =>
          rw [hstaging] at hlookup
          cases file <;> contradiction

theorem Holds.lookup_directory (h : Holds layout contents disk) {d : Directory}
    (hstaging : disk.lookup layout.staging = some (.directory d)) (file : StagedFile) :
    d.lookup (file.below file.name) = (contents file).map Node.file := by
  have hlookup := h file
  rw [Layout.path, FileTree.lookup_append, hstaging] at hlookup
  exact hlookup

end

/-! ## Steps -/

/-- The locals, the condition and the contents at a point of a run. -/
def Shows {ρ : Type} (layout : Layout) (inv : DiskWorld → Prop)
    (contents : StagedFile → Option Bytes) (locals : ρ) (w : DiskWorld) (v : ρ) : Prop :=
  v = locals ∧ inv w ∧ Holds layout contents w.store

section

variable {ρ ε : Type} {faults : Faults} {layout : Layout} {inv : DiskWorld → Prop}
  {contents : StagedFile → Option Bytes} {locals : ρ} {file : StagedFile}

theorem shows_now (hinv : Undisturbed layout inv) {clock : Nat → String}
    {failed : ε → DiskWorld → ρ → Prop} :
    Triple faults (Shows layout inv contents locals) (Program.now clock : DiskProgram ρ ε String)
      (fun _ => Shows layout inv contents locals) failed := by
  apply Triple.now
  intro w v h
  exact ⟨h.1, (hinv.respects [] (by simp)).clock w _ h.2.1, h.2.2⟩

theorem shows_modify {f : ρ → ρ} {failed : ε → DiskWorld → ρ → Prop} :
    Triple faults (Shows layout inv contents locals)
      (Program.modify f : DiskProgram ρ ε Unit)
      (fun _ => Shows layout inv contents (f locals)) failed := by
  apply Triple.modify
  intro w v h
  exact ⟨congrArg f h.1, h.2⟩

/-- Changing a payload in place. -/
theorem shows_performAs (hinv : Undisturbed layout inv) {label : Operation}
    {operation : FileOperation} {failure : IoError → ε} {bytes : Bytes}
    (hlabel : label.scope = operation.scope) (hscope : operation.scope = [layout.path file])
    (hwritten : ∀ disk tree, Holds layout contents disk → operation.apply disk = .ok tree →
      tree.lookup (layout.path file) = some (.file bytes)) :
    Triple faults (Shows layout inv contents locals)
      (Disk.performAs label operation failure : DiskProgram ρ ε Unit)
      (fun _ => Shows layout inv (Function.update contents file (some bytes)) locals)
      (fun _ w _ => inv w) := by
  apply Disk.triple_performAs
  · intro w v tree h happly
    have hstaged : ∀ path ∈ operation.scope, layout.IsStaged path := by
      intro path hpath
      rw [hscope] at hpath
      exact List.mem_singleton.mp hpath ▸ layout.isStaged_path file
    -- only the file of the operation is touched
    have hsame : SameApartFrom [layout.temporary file, layout.path file] w.store tree := by
      intro other hother
      apply sameApartFrom_apply happly
      intro path hpath
      rw [hscope] at hpath
      exact hother path (List.mem_cons_of_mem _ hpath)
    exact ⟨h.1, (hinv.respects _ hstaged).performed w label operation tree h.2.1 hlabel
      (fun _ hpath => hpath) happly, h.2.2.put hsame (hwritten w.store tree h.2.2 happly)⟩
  · intro w v e h
    exact hinv.refused w label h.2.1

theorem shows_createFile (hinv : Undisturbed layout inv) {failure : IoError → ε} :
    Triple faults (Shows layout inv contents locals)
      (Disk.change (.createFile (layout.path file)) failure : DiskProgram ρ ε Unit)
      (fun _ => Shows layout inv (Function.update contents file (some [])) locals)
      (fun _ w _ => inv w) := by
  apply shows_performAs hinv rfl rfl
  intro disk tree _ happly
  exact FileTree.lookup_createFile_self happly

/-- Appending to a payload that is there. -/
theorem shows_append (hinv : Undisturbed layout inv) {label : Operation}
    {failure : IoError → ε} {old bytes : Bytes} (hlabel : label.scope = [layout.path file])
    (hold : contents file = some old) :
    Triple faults (Shows layout inv contents locals)
      (Disk.performAs label (.append (layout.path file) bytes) failure : DiskProgram ρ ε Unit)
      (fun _ => Shows layout inv (Function.update contents file (some (old ++ bytes))) locals)
      (fun _ w _ => inv w) := by
  apply shows_performAs hinv hlabel rfl
  intro disk tree hholds happly
  obtain ⟨content, hcontent, hafter⟩ := FileTree.lookup_append_self happly
  have hfile := hholds file
  rw [hold, hcontent] at hfile
  obtain rfl : content = old := by simpa using hfile
  exact hafter

/-- `write_json_atomic` on a payload. -/
theorem shows_writePayload (hinv : Undisturbed layout inv) {formatFloat : FormatFloat}
    {record : Record} :
    Triple faults (Shows layout inv contents locals)
      (writePayload formatFloat layout file record : DiskProgram ρ RunError Unit)
      (fun _ => Shows layout inv (Function.update contents file
        (some (jsonBytes (record.toJson formatFloat)))) locals)
      (fun _ w _ => inv w) := by
  have hkeeps : Keeps faults (fun w _ => inv w)
      (writePayload formatFloat layout file record : DiskProgram ρ RunError Unit) := by
    apply keeps_writeJsonAtomic
    intro _
    apply hinv.respects
    intro path hpath
    simp only [List.mem_cons, List.not_mem_nil, or_false] at hpath
    rcases hpath with rfl | rfl
    · exact layout.isStaged_temporary file
    · exact layout.isStaged_path file
  -- a write to the temporary file leaves every payload
  have hwrite : ∀ (disk tree : FileTree), Holds layout contents disk →
      SameApartFrom [layout.temporary file] disk tree → Holds layout contents tree := by
    intro disk tree hholds hsame
    apply hholds.of_same
    intro other
    apply hsame
    intro path hpath
    exact List.mem_singleton.mp hpath ▸ layout.temporary_apart file other
  have hholds : Triple faults (fun w v => v = locals ∧ Holds layout contents w.store)
      (writePayload formatFloat layout file record : DiskProgram ρ RunError Unit)
      (fun _ w v => v = locals ∧ Holds layout (Function.update contents file
        (some (jsonBytes (record.toJson formatFloat)))) w.store)
      (fun _ _ _ => True) := by
    have hrecord : Triple faults (fun w v => v = locals ∧ Holds layout contents w.store)
        (writePayload formatFloat layout file record : DiskProgram ρ RunError Unit)
        (fun _ w v => v = locals ∧ Holds layout (Function.update contents file
          (some (jsonBytes (record.toJson formatFloat)))) w.store)
        (fun _ w v => v = locals ∧ Holds layout contents w.store) :=
      triple_writeJsonAtomic _ _ _ (layout.temporary_apart file file)
        (fun w v _ tree h hsame => ⟨h.1, hwrite _ _ h.2 hsame⟩)
        (fun w v _ tree h hsame => ⟨h.1, hwrite _ _ h.2 hsame⟩)
        (fun w v tree h hsame hplaced => ⟨h.1, h.2.put hsame hplaced⟩)
        (fun w v h => h)
    exact hrecord.conseq (fun _ _ h => h) (fun _ _ _ h => h) fun _ _ _ _ => trivial
  exact (hkeeps.and hholds).conseq (fun w v h => ⟨h.2.1, h.1, h.2.2⟩)
    (fun _ w v h => ⟨h.2.1, h.1, h.2.2⟩) fun _ w v h => h.1

end

/-! ## The contents behind a phase -/

/-- The locals are those of the run and its only attempt. -/
structure Identified (layout : Layout) (plan : ResolvedExperiment) (v : RunLocals) : Prop where
  lifecycle : v.lifecycle.runId = layout.runId.text ∧ v.lifecycle.attemptNumber = 1
  run : v.runRecord.runId = layout.runId.text ∧ v.runRecord.attemptCount = 1 ∧
    v.runRecord.experimentDigest = plan.experimentDigest ∧
    v.runRecord.resolvedPlanDigest = plan.resolvedPlanDigest
  attempt : v.attemptRecord.runId = layout.runId.text ∧ v.attemptRecord.attemptNumber = 1

/-- The events are those of the run and its only attempt. -/
def OwnEvents (layout : Layout) (events : List LifecycleEvent) : Prop :=
  ∀ event ∈ events, event.runId = layout.runId.text ∧ event.attemptNumber = 1

theorem OwnEvents.concat {layout : Layout} {events : List LifecycleEvent}
    {event : LifecycleEvent} (h : OwnEvents layout events)
    (hevent : event.runId = layout.runId.text ∧ event.attemptNumber = 1) :
    OwnEvents layout (events ++ [event]) := by
  intro other hother
  rcases List.mem_append.mp hother with hmem | hmem
  · exact h other hmem
  · exact List.mem_singleton.mp hmem ▸ hevent

/-- The payloads that are written once with bytes of their own. -/
def StagedFile.isFixed : StagedFile → Bool
  | .events | .run | .attempt | .provenance => false
  | .experiment | .plan | .validity | .summary | .manifest | .measurements | .resources => true

/-- The journal, the two records of the locals, and the other payloads. -/
def contentsOf (fixed : StagedFile → Option Bytes) (events : List LifecycleEvent)
    (provenance : Option Bytes) (v : RunLocals) : StagedFile → Option Bytes
  | .events => some (journalBytes events)
  | .run => some (jsonBytes v.runRecord.toJson)
  | .attempt => some (jsonBytes v.attemptRecord.toJson)
  | .provenance => provenance
  | file => fixed file

theorem update_contentsOf {fixed : StagedFile → Option Bytes} {events : List LifecycleEvent}
    {provenance bytes : Option Bytes} {v : RunLocals} {file : StagedFile}
    (h : file.isFixed = true) :
    Function.update (contentsOf fixed events provenance v) file bytes =
      contentsOf (Function.update fixed file bytes) events provenance v := by
  funext other
  cases file <;> simp only [StagedFile.isFixed, Bool.false_eq_true] at h <;> cases other <;> rfl

/-- The staging directory behind a phase that has not failed. -/
structure Staged (layout : Layout) (plan : ResolvedExperiment) (inv : DiskWorld → Prop)
    (fixed : StagedFile → Option Bytes) (state : RunState) (status : AttemptStatus)
    (w : DiskWorld) (v : RunLocals) : Prop where
  kept : inv w
  identified : Identified layout plan v
  runStatus : v.runRecord.runStatus = state
  attemptStatus : v.attemptRecord.status = status
  holds : ∃ events provenance, OwnEvents layout events ∧
    Holds layout (contentsOf fixed events provenance v) w.store

section

variable {faults : Faults} {codec : Codec} {services : Services} {layout : Layout}
  {plan : ResolvedExperiment} {inv : DiskWorld → Prop} {fixed : StagedFile → Option Bytes}
  {state : RunState} {status : AttemptStatus}

/-- A triple that starts from known locals and contents. -/
theorem staged_of_shows {α : Type} {p : DiskProgram RunLocals RunError α}
    {post : α → DiskWorld → RunLocals → Prop} {failed : RunError → DiskWorld → RunLocals → Prop}
    (h : ∀ locals events provenance, Identified layout plan locals →
      locals.runRecord.runStatus = state → locals.attemptRecord.status = status →
      OwnEvents layout events →
      Triple faults (Shows layout inv (contentsOf fixed events provenance locals) locals) p post
        failed) :
    Triple faults (Staged layout plan inv fixed state status) p post failed := by
  intro w v hstaged
  obtain ⟨events, provenance, hevents, hholds⟩ := hstaged.holds
  exact h v events provenance hstaged.identified hstaged.runStatus hstaged.attemptStatus hevents
    w v ⟨rfl, hstaged.kept, hholds⟩

theorem staged_payload (hinv : Undisturbed layout inv) {file : StagedFile} {record : Record}
    (hfile : file.isFixed = true) :
    Triple faults (Staged layout plan inv fixed state status)
      (writePayload codec.formatFloat layout file record)
      (fun _ => Staged layout plan inv (Function.update fixed file
        (some (jsonBytes (record.toJson codec.formatFloat)))) state status)
      (fun _ w _ => inv w) := by
  apply staged_of_shows
  intro locals events provenance hidentified hstate hstatus hevents
  refine (shows_writePayload hinv).conseq (fun _ _ h => h) ?_ fun _ _ _ h => h
  rintro _ w v ⟨rfl, hkept, hholds⟩
  rw [update_contentsOf hfile] at hholds
  exact ⟨hkept, hidentified, hstate, hstatus, events, provenance, hevents, hholds⟩

theorem staged_provenance (hinv : Undisturbed layout inv) {record : Record} :
    Triple faults (Staged layout plan inv fixed state status)
      (writePayload codec.formatFloat layout .provenance record)
      (fun _ => Staged layout plan inv fixed state status) (fun _ w _ => inv w) := by
  apply staged_of_shows
  intro locals events provenance hidentified hstate hstatus hevents
  refine (shows_writePayload hinv).conseq (fun _ _ h => h) ?_ fun _ _ _ h => h
  rintro _ w v ⟨rfl, hkept, hholds⟩
  refine ⟨hkept, hidentified, hstate, hstatus, events,
    some (jsonBytes (record.toJson codec.formatFloat)), hevents, ?_⟩
  intro file
  rw [hholds file]
  cases file <;> rfl

/-- The run record of the locals is put in place. -/
theorem shows_writeRunRecord (hinv : Undisturbed layout inv) {locals : RunLocals}
    {contents : StagedFile → Option Bytes} :
    Triple faults (Shows layout inv contents locals) (writeRunRecord codec layout)
      (fun _ => Shows layout inv (Function.update contents .run
        (some (jsonBytes locals.runRecord.toJson))) locals)
      (fun _ w _ => inv w) := by
  unfold writeRunRecord
  refine Triple.via (fun found w v => found = locals ∧ Shows layout inv contents locals w v)
    (fun w v h => ⟨h.1, h⟩) fun found => ?_
  rintro w v ⟨rfl, h⟩
  exact shows_writePayload hinv w v h

/-- The attempt record of the locals is put in place. -/
theorem shows_writeAttemptRecord (hinv : Undisturbed layout inv) {locals : RunLocals}
    {contents : StagedFile → Option Bytes} :
    Triple faults (Shows layout inv contents locals) (writeAttemptRecord codec layout)
      (fun _ => Shows layout inv (Function.update contents .attempt
        (some (jsonBytes locals.attemptRecord.toJson))) locals)
      (fun _ w _ => inv w) := by
  unfold writeAttemptRecord
  refine Triple.via (fun found w v => found = locals ∧ Shows layout inv contents locals w v)
    (fun w v h => ⟨h.1, h⟩) fun found => ?_
  rintro w v ⟨rfl, h⟩
  exact shows_writePayload hinv w v h

/-- The journal and the run record follow a transition. -/
theorem staged_transition (hinv : Undisturbed layout inv) {target : RunState}
    {failure : Option FailureRecord} :
    Triple faults (Staged layout plan inv fixed state status)
      (persistRunTransition codec services layout target failure)
      (fun _ => Staged layout plan inv fixed target status) (fun _ w _ => inv w) := by
  apply staged_of_shows
  intro locals events provenance hidentified hstate hstatus hevents
  unfold persistRunTransition
  refine Triple.andThen (shows_now hinv) fun recordedAt => ?_
  refine Triple.via (fun found w v => found = locals ∧
    Shows layout inv (contentsOf fixed events provenance locals) locals w v)
    (fun w v h => ⟨h.1, h⟩) fun found => ?_
  rintro w v ⟨rfl, h⟩
  refine (?_ : Triple faults (Shows layout inv (contentsOf fixed events provenance found) found)
    _ _ _) w v h
  refine Triple.via (fun step w v =>
    found.lifecycle.transition target recordedAt failure = .ok step ∧
      Shows layout inv (contentsOf fixed events provenance found) found w v) ?_ fun step => ?_
  · apply Triple.ofExcept
    · intro step hstep w v h
      exact ⟨mapFailure_eq_ok.mp hstep, h⟩
    · intro error _ w v h
      exact h.2.1
  obtain ⟨event, lifecycle⟩ := step
  rintro w v ⟨hstep, h⟩
  obtain ⟨hevent, hlifecycle⟩ := Lifecycle.transition_identity hstep
  refine (?_ : Triple faults (Shows layout inv (contentsOf fixed events provenance found) found)
    _ _ _) w v h
  -- the lifecycle advances before the append, and the snapshot follows behind it
  refine Triple.andThen shows_modify fun _ => ?_
  refine Triple.andThen (shows_append hinv rfl rfl) fun _ => ?_
  refine Triple.andThen shows_modify fun _ => ?_
  refine (shows_writeRunRecord hinv).conseq (fun _ _ h => h) ?_ fun _ _ _ h => h
  rintro _ w v ⟨rfl, hkept, hholds⟩
  obtain ⟨hid, hnumber⟩ := hidentified.lifecycle
  refine ⟨hkept, ⟨⟨hlifecycle.1.trans hid, hlifecycle.2.trans hnumber⟩, hidentified.run,
    hidentified.attempt⟩, rfl, hstatus, events ++ [event], provenance,
    hevents.concat ⟨hevent.1.trans hid, hevent.2.trans hnumber⟩, ?_⟩
  intro file
  rw [hholds file]
  cases file <;> simp [contentsOf, journalBytes, Record.toJson]

/-- The attempt record follows a change of its status. -/
theorem staged_attemptStatus (hinv : Undisturbed layout inv) {next : AttemptStatus}
    {failure : Option FailureRecord} :
    Triple faults (Staged layout plan inv fixed state status)
      (persistAttemptStatus codec services layout next failure)
      (fun _ => Staged layout plan inv fixed state next) (fun _ w _ => inv w) := by
  apply staged_of_shows
  intro locals events provenance hidentified hstate hstatus hevents
  unfold persistAttemptStatus
  refine Triple.andThen (shows_now hinv) fun recordedAt => ?_
  refine Triple.andThen shows_modify fun _ => ?_
  refine (shows_writeAttemptRecord hinv).conseq (fun _ _ h => h) ?_ fun _ _ _ h => h
  rintro _ w v ⟨rfl, hkept, hholds⟩
  refine ⟨hkept, ⟨hidentified.lifecycle, hidentified.run, hidentified.attempt⟩, hstate, rfl,
    events, provenance, hevents, ?_⟩
  intro file
  rw [hholds file]
  cases file <;> rfl

end

/-! ## The phases -/

/-- The payloads that follow from the request. -/
def requestContents (formatFloat : FormatFloat) (bytes : Bytes) (plan : ResolvedExperiment) :
    StagedFile → Option Bytes
  | .experiment => some bytes
  | .plan => some (jsonBytes (plan.toJson formatFloat))
  | .measurements => some []
  | _ => none

/-- The payloads that follow from the execution. -/
def executedContents (layout : Layout) (request : StagedFile → Option Bytes)
    (execution : ExecutionOutput) : StagedFile → Option Bytes
  | .measurements => some (measurementLines execution.measurements)
  | .resources => execution.resources.map fun resources =>
      jsonBytes (attemptResources layout.runId.text resources).toJson
  | file => request file

/-- The payloads that end a run. -/
def finalContents (layout : Layout) (plan : ResolvedExperiment)
    (executed : StagedFile → Option Bytes) (execution : ExecutionOutput)
    (validity : ValidityResult) (summary : RunSummary) : StagedFile → Option Bytes
  | .validity => some (jsonBytes validity.toJson)
  | .summary => some (jsonBytes summary.toJson)
  | .manifest => some (jsonBytes (evidenceManifest plan layout.runId.text
      execution.terminalState validity.status).toJson)
  | file => executed file

section

variable {faults : Faults} {codec : Codec} {services : Services} {layout : Layout}
  {bytes : Bytes} {plan : ResolvedExperiment} {inv : DiskWorld → Prop}
  {fixed : StagedFile → Option Bytes} {state : RunState} {status : AttemptStatus}

/-- What a failure of a phase leaves. -/
abbrev Undone (inv : DiskWorld → Prop) (_ : AllocatedFailure) (w : DiskWorld) (_ : RunLocals) :
    Prop := inv w

/-- The two payloads that follow from the execution. -/
theorem update_executedContents {request : StagedFile → Option Bytes}
    {execution : ExecutionOutput} :
    Function.update (Function.update request .resources
      (execution.resources.map fun resources =>
        jsonBytes (attemptResources layout.runId.text resources).toJson)) .measurements
      (some (measurementLines execution.measurements)) =
      executedContents layout request execution := by
  funext file
  cases file <;> rfl

/-- The three payloads that `finalize` writes. -/
theorem update_finalContents {execution : ExecutionOutput} {validity : ValidityResult}
    {summary : RunSummary} :
    Function.update (Function.update (Function.update fixed .validity
      (some (jsonBytes ((Record.validity validity).toJson codec.formatFloat)))) .summary
      (some (jsonBytes ((Record.summary summary).toJson codec.formatFloat)))) .manifest
      (some (jsonBytes ((Record.manifest (evidenceManifest plan layout.runId.text
        execution.terminalState validity.status)).toJson codec.formatFloat))) =
      finalContents layout plan fixed execution validity summary := by
  funext file
  cases file <;> rfl

theorem shows_createAttemptDirectory (hinv : Undisturbed layout inv) {locals : RunLocals}
    {contents : StagedFile → Option Bytes} :
    Triple faults (Shows layout inv contents locals) (createDirectory layout.attemptDirectory)
      (fun _ => Shows layout inv contents locals) (fun _ w _ => inv w) := by
  refine Triple.forEach (fun _ _ => Shows layout inv contents locals)
    fun done ancestor rest hitems => ?_
  have hprefix : ancestor <+: layout.attemptDirectory := by
    apply (List.mem_inits _ _).mp
    apply List.mem_of_mem_tail
    rw [hitems]
    simp
  have hfinal : ¬ layout.finalPath <+: ancestor := by
    intro hpath
    have hapart := layout.apart_finalPath (List.prefix_append layout.staging
      [attemptsName, firstAttemptName])
    exact hapart.2 (hpath.trans hprefix)
  apply Disk.triple_performAs
  · intro w v tree h happly
    refine ⟨h.1, hinv.ensured w ancestor tree h.2.1 hfinal happly, h.2.2.of_same ?_⟩
    intro file
    apply FileTree.lookup_ensureDirectory happly
    exact fun hpath => layout.path_not_ancestor file (hpath.trans hprefix)
  · intro w v e h
    exact hinv.refused w _ h.2.1

theorem staged_stageInitial (hinv : Undisturbed layout inv) {createdAt : String} :
    Triple faults
      (Shows layout inv (fun _ => none) (initialLocals plan layout.runId.text createdAt))
      (stageInitial codec layout bytes plan (Lifecycle.new layout.runId.text createdAt 1).2)
      (fun _ => Staged layout plan inv (requestContents codec.formatFloat bytes plan) .created
        .created)
      (Undone inv) := by
  apply Triple.mapError
  refine Triple.andThen (shows_createAttemptDirectory hinv) fun _ => ?_
  refine Triple.andThen (Triple.andThen (shows_createFile hinv) fun _ =>
    shows_append hinv rfl (Function.update_self ..)) fun _ => ?_
  refine Triple.andThen (shows_writePayload hinv) fun _ => ?_
  refine Triple.andThen (shows_createFile hinv) fun _ => ?_
  refine Triple.andThen (shows_append hinv rfl (Function.update_self ..)) fun _ => ?_
  refine Triple.andThen (shows_createFile hinv) fun _ => ?_
  refine (Triple.andThen (shows_writeRunRecord hinv) fun _ =>
    shows_writeAttemptRecord hinv).conseq (fun _ _ h => h) ?_ fun _ _ _ h => h
  rintro _ w v ⟨rfl, hkept, hholds⟩
  refine ⟨hkept, ⟨⟨rfl, rfl⟩, ⟨rfl, rfl, rfl, rfl⟩, ⟨rfl, rfl⟩⟩, rfl, rfl,
    [(Lifecycle.new layout.runId.text createdAt 1).2], none, ?_, ?_⟩
  -- the journal has the first event, which is the run's own
  · intro event hevent
    rw [List.mem_singleton.mp hevent]
    exact ⟨rfl, rfl⟩
  · intro file
    rw [hholds file]
    cases file <;>
      simp [contentsOf, requestContents, journalBytes, initialLocals, Record.toJson]

theorem staged_prepare (hinv : Undisturbed layout inv) {kind : ExecutionKind}
    (hkind : IsExecutable plan kind) :
    Triple faults (Staged layout plan inv fixed state status) (prepare codec services layout plan)
      (fun provenance w v => capture services.host layout.runId.text plan = some provenance ∧
        Staged layout plan inv fixed .preparing .preparing w v)
      (Undone inv) := by
  apply Triple.mapError
  refine Triple.andThen (staged_transition hinv) fun _ => ?_
  refine Triple.andThen (staged_attemptStatus hinv) fun _ => ?_
  refine Triple.via (fun provenance w v =>
      capture services.host layout.runId.text plan = some provenance ∧
      Staged layout plan inv fixed .preparing .preparing w v)
    (Triple.orPanic (capture_isSome_of_executable hkind) fun provenance hcapture w v h =>
      ⟨hcapture, h⟩) fun provenance => ?_
  rintro w v ⟨hcapture, h⟩
  refine (Triple.andThen (staged_provenance hinv) fun _ => ?_) w v h
  exact fun w v h => ⟨hcapture, h⟩

theorem staged_beginRunning (hinv : Undisturbed layout inv) :
    Triple faults (Staged layout plan inv fixed state status)
      (beginRunning codec services layout)
      (fun _ => Staged layout plan inv fixed .running .running) (Undone inv) := by
  apply Triple.mapError
  exact Triple.andThen (staged_transition hinv) fun _ => staged_attemptStatus hinv

theorem staged_recordProvenance (hinv : Undisturbed layout inv) {kind : ExecutionKind}
    (hkind : IsExecutable plan kind) {provenance : AttemptProvenance}
    (hcapture : capture services.host layout.runId.text plan = some provenance) :
    Triple faults (Staged layout plan inv fixed state status)
      (recordProvenance codec layout provenance (executeRuntime codec services plan kind))
      (fun _ => Staged layout plan inv fixed state status) (Undone inv) := by
  unfold recordProvenance
  split
  · exact fun _ _ h => h
  · rename_i nvidia hnvidia
    apply Triple.mapError
    refine Triple.via (fun _ => Staged layout plan inv fixed state status)
      (Triple.orPanic (attachNvidia_isSome hkind hcapture hnvidia) fun _ _ _ _ h => h)
      fun enriched => ?_
    exact staged_provenance hinv

/-- The attempt ends with the status of the execution. -/
theorem staged_endAttempt (hinv : Undisturbed layout inv) {execution : ExecutionOutput}
    {ended : AttemptStatus} (hended : attemptTerminal execution.terminalState = some ended) :
    Triple faults (Staged layout plan inv fixed state status)
      (endAttempt codec services layout execution)
      (fun _ => Staged layout plan inv fixed state ended) (Undone inv) := by
  apply Triple.mapError
  show Triple faults _ ((Program.orPanic (attemptTerminal execution.terminalState)).andThen _) _ _
  rw [hended]
  exact staged_attemptStatus hinv

theorem staged_recordResources (hinv : Undisturbed layout inv) {execution : ExecutionOutput}
    (hfresh : fixed .resources = none) :
    Triple faults (Staged layout plan inv fixed state status)
      (recordResources codec layout execution)
      (fun _ => Staged layout plan inv (Function.update fixed .resources
        (execution.resources.map fun resources =>
          jsonBytes (attemptResources layout.runId.text resources).toJson)) state status)
      (Undone inv) := by
  unfold recordResources
  split
  · rename_i hnone
    have hsame : Function.update fixed .resources none = fixed := by
      rw [← hfresh, Function.update_eq_self]
    rw [hnone, Option.map_none, hsame]
    exact fun _ _ h => h
  · rename_i resources hresources
    rw [hresources, Option.map_some]
    exact Triple.mapError (staged_payload hinv rfl)

/-- The loop over the measurements, with the lines written so far. -/
theorem staged_recordMeasurements (hinv : Undisturbed layout inv) {execution : ExecutionOutput}
    (hfresh : fixed .measurements = some []) :
    Triple faults (Staged layout plan inv fixed state status)
      (recordMeasurements codec layout execution)
      (fun _ => Staged layout plan inv (Function.update fixed .measurements
        (some (measurementLines execution.measurements))) state status)
      (Undone inv) := by
  apply Triple.mapError
  have hstart : Function.update fixed .measurements (some (measurementLines [])) = fixed := by
    have hempty : some (measurementLines []) = fixed .measurements := hfresh.symm
    rw [hempty, Function.update_eq_self]
  -- behind every record the file has the lines of the records done
  refine (Triple.forEach (fun done _ => Staged layout plan inv (Function.update fixed
    .measurements (some (measurementLines done))) state status) ?_).weaken ?_
  · intro done record rest _
    apply staged_of_shows
    intro locals events provenance hidentified hstate hstatus hevents
    have hold : contentsOf (Function.update fixed .measurements
        (some (measurementLines done))) events provenance locals .measurements =
        some (measurementLines done) := by simp [contentsOf]
    refine (shows_append hinv rfl hold).conseq (fun _ _ h => h) ?_ fun _ _ _ h => h
    rintro _ w v ⟨rfl, hkept, hholds⟩
    refine ⟨hkept, hidentified, hstate, hstatus, events, provenance, hevents, ?_⟩
    intro file
    rw [hholds file]
    cases file <;> simp [contentsOf, measurementLines, Record.toJson]
  · intro w v h
    rw [hstart]
    exact h

/-- The state behind the collection, which only a success reaches. -/
theorem staged_collect (hinv : Undisturbed layout inv) {execution : ExecutionOutput} :
    Triple faults (Staged layout plan inv fixed .running status)
      (collect codec services layout execution)
      (fun _ => Staged layout plan inv fixed (collectedState execution) status) (Undone inv) := by
  apply Triple.mapError
  refine Triple.when (fun hcondition => ?_) fun hcondition w v h => ?_
  · have hsucceeded : execution.terminalState = .succeeded := by simpa using hcondition
    rw [collectedState, if_pos hsucceeded]
    exact staged_transition hinv
  · have hfailed : execution.terminalState ≠ .succeeded := by simpa using hcondition
    rwa [collectedState, if_neg hfailed]

theorem staged_finalize (hinv : Undisturbed layout inv) {execution : ExecutionOutput}
    {validity : ValidityResult} {summary : RunSummary} :
    Triple faults (Staged layout plan inv fixed state status)
      (finalize codec services layout plan execution validity summary)
      (fun _ => Staged layout plan inv
        (finalContents layout plan fixed execution validity summary) execution.terminalState
        status)
      (Undone inv) := by
  apply Triple.mapError
  refine Triple.andThen (staged_transition hinv) fun _ => ?_
  refine Triple.andThen (staged_transition hinv) fun _ => ?_
  refine Triple.andThen (staged_payload hinv rfl) fun _ => ?_
  refine Triple.andThen (staged_payload hinv rfl) fun _ => ?_
  refine (staged_payload hinv rfl).conseq (fun _ _ h => h) (fun _ w v h => ?_) fun _ _ _ h => h
  rw [← update_finalContents]
  exact h

/-- The phases up to the publication, which is left to the caller with what it fails in. -/
theorem staged_attemptRun_failing (hinv : Undisturbed layout inv) {kind : ExecutionKind}
    (hkind : IsExecutable plan kind) {createdAt : String} {execution : ExecutionOutput}
    (hexecution : executeRuntime codec services plan kind = execution)
    {post : RunResult → DiskWorld → RunLocals → Prop}
    {failed : AllocatedFailure → DiskWorld → RunLocals → Prop}
    (hundone : ∀ failure w v, inv w → failed failure w v)
    (hpublish : ∀ validity ended,
      evaluateValidity plan execution layout.runId.text = some validity →
      attemptTerminal execution.terminalState = some ended →
      Triple faults
        (Staged layout plan inv (executedContents layout
          (requestContents codec.formatFloat bytes plan) execution) (collectedState execution)
          ended)
        (publishEvidence codec services layout plan execution validity
          (summarize plan execution validity layout.runId.text))
        post failed) :
    Triple faults
      (Shows layout inv (fun _ => none) (initialLocals plan layout.runId.text createdAt))
      (attemptRun codec services layout bytes plan kind
        (Lifecycle.new layout.runId.text createdAt 1).2)
      post failed := by
  have hterminal : execution.terminalState.isTerminal = true :=
    hexecution ▸ executeRuntime_terminal
  obtain ⟨ended, hended⟩ := Option.isSome_iff_exists.mp (attemptTerminal_isSome hterminal)
  refine Triple.andThen ((staged_stageInitial hinv).failing hundone) fun _ => ?_
  refine Triple.andThen ((staged_prepare hinv hkind).failing hundone) fun provenance => ?_
  rintro w v ⟨hcapture, h⟩
  refine (?_ : Triple faults (Staged layout plan inv
    (requestContents codec.formatFloat bytes plan) .preparing .preparing) _ _ _) w v h
  refine Triple.andThen ((staged_beginRunning hinv).failing hundone) fun _ => ?_
  refine Triple.andThen ((staged_recordProvenance hinv hkind hcapture).failing hundone) fun _ => ?_
  rw [hexecution]
  refine Triple.andThen ((staged_endAttempt hinv hended).failing hundone) fun _ => ?_
  refine Triple.andThen ((staged_recordResources hinv rfl).failing hundone) fun _ => ?_
  refine Triple.andThen ((staged_recordMeasurements hinv rfl).failing hundone) fun _ => ?_
  rw [update_executedContents]
  refine Triple.andThen ((staged_collect hinv).failing hundone) fun _ => ?_
  -- a terminal state has a validity, so the expectation of the source is met
  refine Triple.via (fun validity w v =>
    evaluateValidity plan execution layout.runId.text = some validity ∧
      Staged layout plan inv (executedContents layout
        (requestContents codec.formatFloat bytes plan) execution) (collectedState execution)
        ended w v)
    (Triple.orPanic (evaluateValidity_isSome hterminal) fun validity hvalidity w v h =>
      ⟨hvalidity, h⟩) fun validity => ?_
  rintro w v ⟨hvalidity, h⟩
  exact hpublish validity ended hvalidity hended w v h

/-- The phases up to the publication, none of which disturbs the condition. -/
theorem staged_attemptRun (hinv : Undisturbed layout inv) {kind : ExecutionKind}
    (hkind : IsExecutable plan kind) {createdAt : String} {execution : ExecutionOutput}
    (hexecution : executeRuntime codec services plan kind = execution)
    {post : RunResult → DiskWorld → RunLocals → Prop}
    (hpublish : ∀ validity ended,
      evaluateValidity plan execution layout.runId.text = some validity →
      attemptTerminal execution.terminalState = some ended →
      Triple faults
        (Staged layout plan inv (executedContents layout
          (requestContents codec.formatFloat bytes plan) execution) (collectedState execution)
          ended)
        (publishEvidence codec services layout plan execution validity
          (summarize plan execution validity layout.runId.text))
        post (Undone inv)) :
    Triple faults
      (Shows layout inv (fun _ => none) (initialLocals plan layout.runId.text createdAt))
      (attemptRun codec services layout bytes plan kind
        (Lifecycle.new layout.runId.text createdAt 1).2)
      post (Undone inv) :=
  staged_attemptRun_failing hinv hkind hexecution (fun _ _ _ h => h) hpublish

/-! ## The clean-up and the allocation -/

theorem keeps_staged_write (hinv : Undisturbed layout inv) {file : StagedFile}
    {record : Record} :
    Keeps faults (fun w (_ : RunLocals) => inv w)
      (writePayload codec.formatFloat layout file record) := by
  apply keeps_writeJsonAtomic
  intro _
  apply hinv.respects
  intro path hpath
  simp only [List.mem_cons, List.not_mem_nil, or_false] at hpath
  rcases hpath with rfl | rfl
  · exact layout.isStaged_temporary file
  · exact layout.isStaged_path file

theorem keeps_staged_transition (hinv : Undisturbed layout inv) {target : RunState}
    {failure : Option FailureRecord} :
    Keeps faults (fun w _ => inv w)
      (persistRunTransition codec services layout target failure) := by
  have hpath : ∀ path ∈ [layout.path .events], layout.IsStaged path := by
    intro path hpath
    exact List.mem_singleton.mp hpath ▸ layout.isStaged_path .events
  unfold persistRunTransition
  refine Keeps.andThen (Disk.keeps_now fun _ => hinv.respects _ hpath) fun recordedAt => ?_
  refine Keeps.andThen Keeps.get fun locals => ?_
  refine Keeps.andThen Keeps.ofExcept fun step => ?_
  refine Keeps.andThen (Keeps.modify fun _ _ h => h) fun _ => ?_
  refine Keeps.andThen (keeps_appendJsonLine fun _ => hinv.respects _ hpath) fun _ => ?_
  refine Keeps.andThen (Keeps.modify fun _ _ h => h) fun _ => ?_
  exact Keeps.andThen Keeps.get fun locals => keeps_staged_write hinv

/-- A step whose failure is ignored goes on from what both its ends establish. -/
theorem triple_ignored {ε : Type} {p : DiskProgram RunLocals RunError Unit}
    {pre : DiskWorld → RunLocals → Prop} {post : DiskWorld → Prop}
    {failed : ε → DiskWorld → RunLocals → Prop}
    (h : Triple faults pre p (fun _ w _ => post w) (fun _ w _ => post w)) :
    Triple faults pre (ignoring p) (fun _ w _ => post w) failed :=
  Triple.recover h fun _ => Triple.modify fun _ _ h => h

/-- The clean-up does not fail. -/
theorem triple_cleanup (hinv : Undisturbed layout inv) {ε : Type} {phase message : String}
    {failed : ε → DiskWorld → RunLocals → Prop} :
    Triple faults (fun w _ => inv w)
      (persistAllocatedFailure codec services layout phase message) (fun _ w _ => inv w)
      failed := by
  have hread : ∀ {post : RunLocals → DiskProgram RunLocals ε Unit},
      (∀ locals, Triple faults (fun w _ => inv w) (post locals) (fun _ w _ => inv w) failed) →
      Triple faults (fun w _ => inv w) (Program.get.andThen post) (fun _ w _ => inv w) failed :=
    fun hpost => Triple.via (fun _ w _ => inv w) (fun _ _ h => h) hpost
  unfold persistAllocatedFailure
  refine hread fun locals => ?_
  refine Triple.via (fun _ w _ => inv w) (Triple.when (fun _ => triple_ignored
    (keeps_staged_transition hinv)) fun _ _ _ h => h) fun _ => ?_
  refine hread fun locals => ?_
  refine Triple.via (fun _ w _ => inv w) (Triple.when (fun _ => triple_ignored
    (keeps_staged_transition hinv)) fun _ _ _ h => h) fun _ => ?_
  refine Triple.via (fun _ w _ => inv w)
    (Triple.now fun w v h => (hinv.respects [] (by simp)).clock w _ h) fun updatedAt => ?_
  refine Triple.via (fun _ w _ => inv w) (Triple.modify fun _ _ h => h) fun _ => ?_
  refine Triple.via (fun _ w _ => inv w) (triple_ignored (Keeps.andThen Keeps.get fun locals =>
    keeps_staged_write hinv)) fun _ => ?_
  exact triple_ignored (Keeps.andThen Keeps.get fun locals => keeps_staged_write hinv)

/-- A directory that is not in the final one. -/
theorem triple_createApart (hinv : Undisturbed layout inv) {ρ : Type} {path : List FileName}
    (hpath : ¬ layout.finalPath <+: path) :
    Triple faults (fun w (_ : ρ) => inv w) (createDirectory path) (fun _ w _ => inv w)
      (fun error w _ => error.isRequestRejection = false ∧ inv w) := by
  refine Triple.forEach (fun _ _ w _ => inv w) fun done ancestor rest hitems => ?_
  have hprefix : ancestor <+: path := by
    apply (List.mem_inits _ _).mp
    apply List.mem_of_mem_tail
    rw [hitems]
    simp
  apply Disk.triple_performAs
  · intro w v tree h happly
    exact hinv.ensured w ancestor tree h (fun hfinal => hpath (hfinal.trans hprefix)) happly
  · intro w v e h
    exact ⟨rfl, hinv.refused w _ h⟩

end

theorem Layout.parents_outside (layout : Layout) :
    ¬ layout.finalPath <+: layout.stagingParent ∧ ¬ layout.finalPath <+: layout.runsParent := by
  have hlength : layout.finalPath.length = layout.outputRoot.length + 2 := by
    simp [Layout.finalPath, Layout.runsParent]
  constructor
  · intro hprefix
    have hle := hprefix.length_le
    simp only [Layout.stagingParent, List.length_append, List.length_singleton] at hle
    omega
  · intro hprefix
    have hle := hprefix.length_le
    simp only [Layout.runsParent, List.length_append, List.length_singleton] at hle
    omega

section

variable {faults : Faults} {codec : Codec} {services : Services} {outputRoot : List FileName}
  {bytes : Bytes} {plan : ResolvedExperiment} {inv : DiskWorld → Prop}

/-- A run whose attempt meets a postcondition meets it, or fails with the condition kept. -/
theorem triple_acceptedRun (hinv : Undisturbed (services.layout outputRoot) inv)
    {kind : ExecutionKind} {post : RunResult → DiskWorld → Prop}
    (hattempt : ∀ createdAt, Triple faults
      (Shows (services.layout outputRoot) inv (fun _ => none)
        (initialLocals plan (services.nextRunId 0).text createdAt))
      (attemptRun codec services (services.layout outputRoot) bytes plan kind
        (Lifecycle.new (services.nextRunId 0).text createdAt 1).2)
      (fun result w _ => post result w) (Undone inv)) :
    Triple faults (fun w trace => inv w ∧ trace.idsDrawn = 0)
      (acceptedRun codec services outputRoot bytes plan kind)
      (fun result w _ => post result w)
      (fun error w _ => error.isRequestRejection = false ∧ inv w) := by
  obtain ⟨hstagingParent, hrunsParent⟩ := (services.layout outputRoot).parents_outside
  unfold acceptedRun
  refine Triple.via (fun runId w _ => runId = services.nextRunId 0 ∧ inv w) ?_ fun runId => ?_
  · rintro w trace ⟨h, hfirst⟩
    refine ⟨?_, h⟩
    rw [← hfirst]
  rintro w trace ⟨rfl, h⟩
  refine (?_ : Triple faults (fun w _ => inv w) _ _ _) w trace h
  -- the parents lie outside what `inv` speaks of
  refine Triple.andThen (triple_createApart hinv hstagingParent) fun _ => ?_
  refine Triple.andThen (triple_createApart hinv hrunsParent) fun _ => ?_
  refine Triple.via (fun _ w _ => inv w ∧
    Holds (services.layout outputRoot) (fun _ => none) w.store) ?_ fun _ => ?_
  · have hstaged : ∀ path ∈ [(services.layout outputRoot).staging],
        (services.layout outputRoot).IsStaged path := by
      intro path hpath
      exact Or.inl (List.mem_singleton.mp hpath)
    apply Disk.triple_performAs
    · intro w trace tree h happly
      exact ⟨(hinv.respects _ hstaged).performed w
        (.change (.createDirectory (services.layout outputRoot).staging))
        (.createDirectory (services.layout outputRoot).staging) tree h rfl
        (fun _ hpath => hpath) happly, holds_of_createDirectory happly⟩
    · intro w trace e h
      exact ⟨rfl, hinv.refused w _ h⟩
  refine Triple.via (fun _ w _ => inv w ∧
      Holds (services.layout outputRoot) (fun _ => none) w.store)
    (Triple.now fun w trace h => ⟨(hinv.respects [] (by simp)).clock w _ h.1, h.2⟩)
    fun createdAt => ?_
  apply Triple.nested
  intro trace
  refine (Triple.recover (hattempt createdAt) fun failure => ?_).weaken fun w v h =>
    ⟨h.1, h.2.1, h.2.2⟩
  -- the clean-up works in the staging directory as well
  refine Triple.via (fun _ w _ => inv w) (triple_cleanup hinv) fun _ w v h => ?_
  exact ⟨rfl, h⟩

end

end Benchplane
