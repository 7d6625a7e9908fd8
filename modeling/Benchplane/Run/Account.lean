import Benchplane.Run.LifecycleRuns
import Benchplane.Run.Publication

/-!
# The account of a run

What the staged records tell of a run that has not failed: the journal is a walk of the
lifecycle, `run.json` follows from its first and last event, `attempt.json` from the start
of the attempt and its status, and the provenance is that of the host and the execution.
-/

namespace Benchplane

open Library

/-! ## Records -/

/-- The run record that belongs to a journal with these ends. -/
def runRecordOf (layout : Layout) (plan : ResolvedExperiment) (first last : LifecycleEvent) :
    RunRecord where
  runId := layout.runId.text
  runStatus := last.toState
  createdAt := first.recordedAt
  updatedAt := last.recordedAt
  completedAt := if last.toState.isTerminal then some last.recordedAt else none
  experimentDigest := plan.experimentDigest
  resolvedPlanDigest := plan.resolvedPlanDigest
  attemptCount := 1
  failure := last.failure

/-- The attempt record with a status since some time. -/
def attemptRecordOf (layout : Layout) (startedAt updatedAt : String) (status : AttemptStatus)
    (failure : Option FailureRecord) : AttemptRecord where
  runId := layout.runId.text
  attemptNumber := 1
  status := status
  startedAt := startedAt
  updatedAt := updatedAt
  completedAt := if status.isTerminal then some updatedAt else none
  failure := failure

/-- The provenance that a run records for an execution. -/
def recordedProvenance (services : Services) (layout : Layout) (plan : ResolvedExperiment)
    (execution : ExecutionOutput) : Option AttemptProvenance :=
  (capture services.host layout.runId.text plan).bind fun provenance =>
    match execution.nvidiaGpu with
    | none => some provenance
    | some nvidia => (attachNvidia provenance nvidia).toOption

/-- The provenance file. -/
def provenanceBytes (provenance : Option AttemptProvenance) : Option Bytes :=
  provenance.map fun record => jsonBytes record.toJson

/-- How far the attempt is. -/
structure AttemptPoint where
  status : AttemptStatus
  failure : Option FailureRecord

/-- How far the run is. -/
structure RunPoint where
  state : RunState
  failure : Option FailureRecord

/-- The locals against the journal.  Every time in them has a property. -/
structure Account (layout : Layout) (plan : ResolvedExperiment) (IsTime : String → Prop)
    (run : RunPoint) (attempt : AttemptPoint) (events : List LifecycleEvent) (v : RunLocals) :
    Prop where
  own : OwnEvents layout events
  identity : v.lifecycle.runId = layout.runId.text ∧ v.lifecycle.attemptNumber = 1
  follows : v.lifecycle.Follows events
  timed : ∀ event ∈ events, IsTime event.recordedAt
  failures : ∀ event ∈ events, event.failure = none ∨ event.failure = run.failure
  run : ∃ first last, events.head? = some first ∧ events.getLast? = some last ∧
    last.toState = run.state ∧ last.failure = run.failure ∧
      v.runRecord = runRecordOf layout plan first last
  attempt : ∃ first updatedAt, events.head? = some first ∧ IsTime updatedAt ∧
    v.attemptRecord =
      attemptRecordOf layout first.recordedAt updatedAt attempt.status attempt.failure

/-- The staging directory of a run that has not failed. -/
structure Documented (layout : Layout) (plan : ResolvedExperiment) (IsTime : String → Prop)
    (inv : DiskWorld → Prop) (fixed : StagedFile → Option Bytes)
    (provenance : Option AttemptProvenance) (run : RunPoint) (attempt : AttemptPoint)
    (w : DiskWorld) (v : RunLocals) : Prop where
  kept : inv w
  holds : ∃ events, Account layout plan IsTime run attempt events v ∧
    Holds layout (contentsOf fixed events (provenanceBytes provenance) v) w.store

section

variable {layout : Layout} {plan : ResolvedExperiment} {IsTime : String → Prop}
  {run : RunPoint} {attempt : AttemptPoint} {events : List LifecycleEvent} {v : RunLocals}

/-- The account of a run that has just been allocated. -/
theorem account_initial {createdAt : String} (htime : IsTime createdAt) :
    Account layout plan IsTime ⟨.created, none⟩ ⟨.created, none⟩
      [(Lifecycle.new layout.runId.text createdAt 1).2]
      (initialLocals plan layout.runId.text createdAt) where
  own event hevent := by
    rw [List.mem_singleton.mp hevent]
    exact ⟨rfl, rfl⟩
  identity := ⟨rfl, rfl⟩
  follows := Lifecycle.follows_new _ _ _
  timed event hevent := by
    rw [List.mem_singleton.mp hevent]
    exact htime
  failures event hevent := by
    rw [List.mem_singleton.mp hevent]
    exact Or.inl rfl
  run := ⟨_, _, rfl, rfl, rfl, rfl, rfl⟩
  attempt := ⟨_, createdAt, rfl, htime, rfl⟩

/-- A transition with the run record behind it. -/
theorem Account.transition {source target : RunState}
    (h : Account layout plan IsTime ⟨source, none⟩ attempt events v)
    {failure : Option FailureRecord} {recordedAt : String}
    {event : LifecycleEvent} {lifecycle : Lifecycle}
    (hfailure : target.isTerminal = true ∨ failure = none) (htime : IsTime recordedAt)
    (hstep : v.lifecycle.transition target recordedAt failure = .ok (event, lifecycle)) :
    Account layout plan IsTime ⟨target, failure⟩ attempt (events ++ [event])
      { v with
        lifecycle := lifecycle
        runRecord := v.runRecord.advance target event.recordedAt failure } := by
  have hvalid := (Lifecycle.transition_eq_ok hstep).1
  obtain ⟨hevent, hlifecycle⟩ := Lifecycle.transition_identity hstep
  have hpair := hstep
  rw [Lifecycle.transition, if_pos hvalid] at hpair
  obtain ⟨rfl, rfl⟩ := Prod.mk.inj (Except.ok.inj hpair)
  obtain ⟨first, last, hfirst, hlast, hstate, hnone, hrecord⟩ := h.run
  obtain ⟨first', updatedAt, hfirst', hupdated, hattempt⟩ := h.attempt
  have hnext := h.follows.transition hstep
  -- the run has not ended before
  have hcurrent : last.toState.isTerminal = false := by
    obtain ⟨other, hother, hsame⟩ := h.follows.last
    rw [hlast] at hother
    obtain rfl := Option.some.inj hother
    rw [hsame]
    exact isTerminal_eq_false_of_isValidTransition hvalid
  have hhead : ∀ {head event : LifecycleEvent}, events.head? = some head →
      (events ++ [event]).head? = some head := by
    intro head event hhead
    rw [List.head?_append, hhead]
    rfl
  refine ⟨h.own.concat ⟨hevent.1.trans h.identity.1, hevent.2.trans h.identity.2⟩, h.identity,
    hnext, ?_, ?_, ?_, ?_⟩
  · intro other hother
    rcases List.mem_append.mp hother with hmem | hmem
    · exact h.timed other hmem
    · rw [List.mem_singleton.mp hmem]
      exact htime
  · intro other hother
    rcases List.mem_append.mp hother with hmem | hmem
    · exact Or.inl ((h.failures other hmem).elim id id)
    · rw [List.mem_singleton.mp hmem]
      exact Or.inr rfl
  · refine ⟨first, _, hhead hfirst, List.getLast?_concat .., rfl, rfl, ?_⟩
    rw [hrecord]
    rcases hfailure with hterminal | rfl
    · simp [RunRecord.advance, runRecordOf, hterminal]
    · simp [RunRecord.advance, runRecordOf, hcurrent, hnone]
  · exact ⟨first', updatedAt, hhead hfirst', hupdated, hattempt⟩

/-- A change of the attempt's status. -/
theorem Account.attemptStatus {before status : AttemptStatus}
    (h : Account layout plan IsTime run ⟨before, none⟩ events v)
    (hbefore : before.isTerminal = false) {failure : Option FailureRecord} {recordedAt : String}
    (hfailure : status.isTerminal = true ∨ failure = none) (htime : IsTime recordedAt) :
    Account layout plan IsTime run ⟨status, failure⟩ events
      { v with attemptRecord := v.attemptRecord.advance status recordedAt failure } := by
  obtain ⟨first, updatedAt, hfirst, -, hattempt⟩ := h.attempt
  refine ⟨h.own, h.identity, h.follows, h.timed, h.failures, h.run, first, recordedAt, hfirst,
    htime, ?_⟩
  rw [hattempt]
  rcases hfailure with hterminal | rfl
  · simp [AttemptRecord.advance, attemptRecordOf, hterminal]
  · simp [AttemptRecord.advance, attemptRecordOf, hbefore]

end

/-! ## The phases -/

section

variable {faults : Faults} {codec : Codec} {services : Services} {layout : Layout}
  {bytes : Bytes} {plan : ResolvedExperiment} {IsTime : String → Prop} {inv : DiskWorld → Prop}
  {fixed : StagedFile → Option Bytes} {provenance : Option AttemptProvenance}
  {run : RunPoint} {attempt : AttemptPoint}

/-- A triple that starts from known locals and contents. -/
theorem documented_of_shows {α : Type} {p : DiskProgram RunLocals RunError α}
    {post : α → DiskWorld → RunLocals → Prop} {failed : RunError → DiskWorld → RunLocals → Prop}
    (h : ∀ locals events, Account layout plan IsTime run attempt events locals →
      Triple faults (Shows layout inv (contentsOf fixed events
        (provenanceBytes provenance) locals) locals) p post failed) :
    Triple faults (Documented layout plan IsTime inv fixed provenance run attempt) p post
      failed := by
  intro w v hdocumented
  obtain ⟨events, haccount, hholds⟩ := hdocumented.holds
  exact h v events haccount w v ⟨rfl, hdocumented.kept, hholds⟩

theorem documented_payload (hinv : Undisturbed layout inv) {file : StagedFile} {record : Record}
    (hfile : file.isFixed = true) :
    Triple faults (Documented layout plan IsTime inv fixed provenance run attempt)
      (writePayload codec.formatFloat layout file record)
      (fun _ => Documented layout plan IsTime inv (Function.update fixed file
        (some (jsonBytes (record.toJson codec.formatFloat)))) provenance run attempt)
      (fun _ w _ => inv w) := by
  apply documented_of_shows
  intro locals events haccount
  refine (shows_writePayload hinv).conseq (fun _ _ h => h) ?_ fun _ _ _ h => h
  rintro _ w v ⟨rfl, hkept, hholds⟩
  rw [update_contentsOf hfile] at hholds
  exact ⟨hkept, events, haccount, hholds⟩

theorem documented_provenance (hinv : Undisturbed layout inv) {record : AttemptProvenance} :
    Triple faults (Documented layout plan IsTime inv fixed provenance run attempt)
      (writePayload codec.formatFloat layout .provenance (.provenance record))
      (fun _ => Documented layout plan IsTime inv fixed (some record) run attempt)
      (fun _ w _ => inv w) := by
  apply documented_of_shows
  intro locals events haccount
  refine (shows_writePayload hinv).conseq (fun _ _ h => h) ?_ fun _ _ _ h => h
  rintro _ w v ⟨rfl, hkept, hholds⟩
  refine ⟨hkept, events, haccount, fun file => ?_⟩
  rw [hholds file]
  cases file <;> rfl

/-- The journal, the run record and the account follow a transition. -/
theorem documented_transition (hinv : Undisturbed layout inv)
    (hclock : ∀ n, IsTime (services.clock n)) {source target : RunState}
    {failure : Option FailureRecord} (hfailure : target.isTerminal = true ∨ failure = none) :
    Triple faults (Documented layout plan IsTime inv fixed provenance ⟨source, none⟩ attempt)
      (persistRunTransition codec services layout target failure)
      (fun _ => Documented layout plan IsTime inv fixed provenance ⟨target, failure⟩ attempt)
      (fun _ w _ => inv w) := by
  apply documented_of_shows
  intro locals events haccount
  unfold persistRunTransition
  refine Triple.via (fun recordedAt w v => IsTime recordedAt ∧ Shows layout inv (contentsOf fixed
    events (provenanceBytes provenance) locals) locals w v) ?_
    fun recordedAt => ?_
  · apply Triple.now
    intro w v h
    exact ⟨hclock _, h.1, (hinv.respects [] (by simp)).clock w _ h.2.1, h.2.2⟩
  rintro w v ⟨htime, h⟩
  refine (?_ : Triple faults (Shows layout inv (contentsOf fixed events
    (provenanceBytes provenance) locals) locals) _ _ _) w v h
  refine Triple.via (fun found w v => found = locals ∧ Shows layout inv (contentsOf fixed events
    (provenanceBytes provenance) locals) locals w v)
    (fun w v h => ⟨h.1, h⟩) fun found => ?_
  rintro w v ⟨rfl, h⟩
  refine (?_ : Triple faults (Shows layout inv (contentsOf fixed events
    (provenanceBytes provenance) found) found) _ _ _) w v h
  refine Triple.via (fun step w v =>
    found.lifecycle.transition target recordedAt failure = .ok step ∧
      Shows layout inv (contentsOf fixed events
        (provenanceBytes provenance) found) found w v) ?_ fun step => ?_
  · apply Triple.ofExcept
    · intro step hstep w v h
      exact ⟨mapFailure_eq_ok.mp hstep, h⟩
    · intro error _ w v h
      exact h.2.1
  obtain ⟨event, lifecycle⟩ := step
  rintro w v ⟨hstep, h⟩
  have hnext := haccount.transition hfailure htime hstep
  refine (?_ : Triple faults (Shows layout inv (contentsOf fixed events
    (provenanceBytes provenance) found) found) _ _ _) w v h
  -- the lifecycle advances before the append, and the snapshot follows behind it
  refine Triple.andThen shows_modify fun _ => ?_
  refine Triple.andThen (shows_append hinv rfl rfl) fun _ => ?_
  refine Triple.andThen shows_modify fun _ => ?_
  refine (shows_writeRunRecord hinv).conseq (fun _ _ h => h) ?_ fun _ _ _ h => h
  rintro _ w v ⟨rfl, hkept, hholds⟩
  refine ⟨hkept, events ++ [event], hnext, fun file => ?_⟩
  rw [hholds file]
  cases file <;> simp [contentsOf, journalBytes, Record.toJson]

/-- The attempt record and the account follow a change of the status. -/
theorem documented_attemptStatus (hinv : Undisturbed layout inv)
    (hclock : ∀ n, IsTime (services.clock n)) {before status : AttemptStatus}
    (hbefore : before.isTerminal = false) {failure : Option FailureRecord}
    (hfailure : status.isTerminal = true ∨ failure = none) :
    Triple faults
      (Documented layout plan IsTime inv fixed provenance run ⟨before, none⟩)
      (persistAttemptStatus codec services layout status failure)
      (fun _ => Documented layout plan IsTime inv fixed provenance run ⟨status, failure⟩)
      (fun _ w _ => inv w) := by
  apply documented_of_shows
  intro locals events haccount
  unfold persistAttemptStatus
  refine Triple.via (fun recordedAt w v => IsTime recordedAt ∧ Shows layout inv (contentsOf fixed
    events (provenanceBytes provenance) locals) locals w v) ?_
    fun recordedAt => ?_
  · apply Triple.now
    intro w v h
    exact ⟨hclock _, h.1, (hinv.respects [] (by simp)).clock w _ h.2.1, h.2.2⟩
  rintro w v ⟨htime, h⟩
  -- the record in memory changes before it replaces the file
  have hnext := haccount.attemptStatus hbefore hfailure htime
  refine (?_ : Triple faults (Shows layout inv (contentsOf fixed events
    (provenanceBytes provenance) locals) locals) _ _ _) w v h
  refine Triple.andThen shows_modify fun _ => ?_
  refine (shows_writeAttemptRecord hinv).conseq (fun _ _ h => h) ?_ fun _ _ _ h => h
  rintro _ w v ⟨rfl, hkept, hholds⟩
  refine ⟨hkept, events, hnext, fun file => ?_⟩
  rw [hholds file]
  cases file <;> rfl

theorem documented_stageInitial (hinv : Undisturbed layout inv) {createdAt : String}
    (htime : IsTime createdAt) :
    Triple faults
      (Shows layout inv (fun _ => none) (initialLocals plan layout.runId.text createdAt))
      (stageInitial codec layout bytes plan (Lifecycle.new layout.runId.text createdAt 1).2)
      (fun _ => Documented layout plan IsTime inv
        (requestContents codec.formatFloat bytes plan) none ⟨.created, none⟩ ⟨.created, none⟩)
      (Undone inv) := by
  apply Triple.mapError
  refine Triple.andThen (shows_createAttemptDirectory hinv) fun _ => ?_
  refine Triple.andThen (Triple.andThen (shows_createFile hinv) fun _ =>
    shows_append hinv rfl (Function.update_self ..)) fun _ => ?_
  refine Triple.andThen (shows_writePayload hinv) fun _ => ?_
  refine Triple.andThen (shows_createFile hinv) fun _ => ?_
  refine Triple.andThen (shows_append hinv rfl (Function.update_self ..)) fun _ => ?_
  refine Triple.andThen (shows_createFile hinv) fun _ => ?_
  refine (Triple.andThen (shows_writeRunRecord hinv) fun _ =>
    shows_writeAttemptRecord hinv).conseq (fun _ _ h => h) ?_ fun _ _ _ h => h
  -- every file has the contents that the account gives a run that has just begun
  rintro _ w v ⟨rfl, hkept, hholds⟩
  refine ⟨hkept, [(Lifecycle.new layout.runId.text createdAt 1).2], account_initial htime,
    fun file => ?_⟩
  rw [hholds file]
  cases file <;>
    simp [contentsOf, requestContents, provenanceBytes, journalBytes, initialLocals,
        Record.toJson]

theorem documented_prepare (hinv : Undisturbed layout inv)
    (hclock : ∀ n, IsTime (services.clock n)) {kind : ExecutionKind}
    (hkind : IsExecutable plan kind) :
    Triple faults
      (Documented layout plan IsTime inv fixed none ⟨.created, none⟩ ⟨.created, none⟩)
      (prepare codec services layout plan)
      (fun captured w v => capture services.host layout.runId.text plan = some captured ∧
        Documented layout plan IsTime inv fixed (some captured) ⟨.preparing, none⟩
          ⟨.preparing, none⟩ w v)
      (Undone inv) := by
  apply Triple.mapError
  refine Triple.andThen (documented_transition hinv hclock (Or.inr rfl)) fun _ => ?_
  refine Triple.andThen (documented_attemptStatus hinv hclock rfl (Or.inr rfl)) fun _ => ?_
  refine Triple.via (fun captured w v =>
      capture services.host layout.runId.text plan = some captured ∧
      Documented layout plan IsTime inv fixed none ⟨.preparing, none⟩ ⟨.preparing, none⟩ w v)
    (Triple.orPanic (capture_isSome_of_executable hkind) fun captured hcapture w v h =>
      ⟨hcapture, h⟩) fun captured => ?_
  rintro w v ⟨hcapture, h⟩
  refine (Triple.andThen (documented_provenance hinv) fun _ => ?_) w v h
  exact fun w v h => ⟨hcapture, h⟩

theorem documented_beginRunning (hinv : Undisturbed layout inv)
    (hclock : ∀ n, IsTime (services.clock n)) :
    Triple faults
      (Documented layout plan IsTime inv fixed provenance ⟨.preparing, none⟩ ⟨.preparing, none⟩)
      (beginRunning codec services layout)
      (fun _ => Documented layout plan IsTime inv fixed provenance ⟨.running, none⟩
        ⟨.running, none⟩)
      (Undone inv) := by
  apply Triple.mapError
  exact Triple.andThen (documented_transition hinv hclock (Or.inr rfl)) fun _ =>
    documented_attemptStatus hinv hclock rfl (Or.inr rfl)

/-- Behind this phase the provenance is the one of the execution. -/
theorem documented_recordProvenance (hinv : Undisturbed layout inv) {kind : ExecutionKind}
    (hkind : IsExecutable plan kind) {captured : AttemptProvenance}
    (hcapture : capture services.host layout.runId.text plan = some captured) :
    Triple faults (Documented layout plan IsTime inv fixed (some captured) run attempt)
      (recordProvenance codec layout captured (executeRuntime codec services plan kind))
      (fun _ => Documented layout plan IsTime inv fixed (recordedProvenance services layout plan
        (executeRuntime codec services plan kind)) run attempt)
      (Undone inv) := by
  unfold recordProvenance recordedProvenance
  rw [hcapture, Option.bind_some]
  cases hnvidia : (executeRuntime codec services plan kind).nvidiaGpu with
  | none => exact fun _ _ h => h
  | some nvidia =>
      apply Triple.mapError
      refine Triple.via (fun enriched w v => (attachNvidia captured nvidia).toOption =
          some enriched ∧ Documented layout plan IsTime inv fixed (some captured) run attempt w v)
        (Triple.orPanic (attachNvidia_isSome hkind hcapture hnvidia) fun enriched henriched _ _ h =>
          ⟨henriched, h⟩) fun enriched => ?_
      rintro w v ⟨henriched, h⟩
      simp only [henriched]
      exact documented_provenance hinv w v h

theorem documented_endAttempt (hinv : Undisturbed layout inv)
    (hclock : ∀ n, IsTime (services.clock n)) {execution : ExecutionOutput}
    {ended : AttemptStatus} (hended : attemptTerminal execution.terminalState = some ended) :
    Triple faults
      (Documented layout plan IsTime inv fixed provenance run ⟨.running, none⟩)
      (endAttempt codec services layout execution)
      (fun _ => Documented layout plan IsTime inv fixed provenance run
        ⟨ended, execution.failure⟩)
      (Undone inv) := by
  have hterminal : ended.isTerminal = true := by
    generalize execution.terminalState = state at hended
    cases state <;> first | contradiction | (obtain rfl := Option.some.inj hended; rfl)
  apply Triple.mapError
  show Triple faults _ ((Program.orPanic (attemptTerminal execution.terminalState)).andThen _) _ _
  rw [hended]
  exact documented_attemptStatus hinv hclock rfl (Or.inl hterminal)

theorem documented_recordResources (hinv : Undisturbed layout inv) {execution : ExecutionOutput}
    (hfresh : fixed .resources = none) :
    Triple faults (Documented layout plan IsTime inv fixed provenance run attempt)
      (recordResources codec layout execution)
      (fun _ => Documented layout plan IsTime inv (Function.update fixed .resources
        (execution.resources.map fun resources =>
          jsonBytes (attemptResources layout.runId.text resources).toJson)) provenance run attempt)
      (Undone inv) := by
  unfold recordResources
  split
  · rename_i hnone
    have hsame : Function.update fixed .resources none = fixed := by
      rw [← hfresh, Function.update_eq_self]
    rw [hnone, Option.map_none, hsame]
    exact fun _ _ h => h
  · rename_i resources hresources
    rw [hresources, Option.map_some]
    exact Triple.mapError (documented_payload hinv rfl)

/-- The loop over the measurements, with the lines written so far. -/
theorem documented_recordMeasurements (hinv : Undisturbed layout inv)
    {execution : ExecutionOutput} (hfresh : fixed .measurements = some []) :
    Triple faults (Documented layout plan IsTime inv fixed provenance run attempt)
      (recordMeasurements codec layout execution)
      (fun _ => Documented layout plan IsTime inv (Function.update fixed .measurements
        (some (measurementLines execution.measurements))) provenance run attempt)
      (Undone inv) := by
  apply Triple.mapError
  have hstart : Function.update fixed .measurements (some (measurementLines [])) = fixed := by
    have hempty : some (measurementLines []) = fixed .measurements := hfresh.symm
    rw [hempty, Function.update_eq_self]
  -- behind every record the file has the lines of the records done
  refine (Triple.forEach (fun done _ => Documented layout plan IsTime inv (Function.update fixed
    .measurements (some (measurementLines done))) provenance run attempt) ?_).weaken ?_
  · intro done record rest _
    apply documented_of_shows
    intro locals events haccount
    have hold : contentsOf (Function.update fixed .measurements
        (some (measurementLines done))) events
        (provenanceBytes provenance) locals .measurements =
        some (measurementLines done) := by simp [contentsOf]
    refine (shows_append hinv rfl hold).conseq (fun _ _ h => h) ?_ fun _ _ _ h => h
    rintro _ w v ⟨rfl, hkept, hholds⟩
    refine ⟨hkept, events, haccount, fun file => ?_⟩
    rw [hholds file]
    cases file <;> simp [contentsOf, measurementLines, Record.toJson]
  · intro w v h
    rw [hstart]
    exact h

theorem documented_collect (hinv : Undisturbed layout inv)
    (hclock : ∀ n, IsTime (services.clock n)) {execution : ExecutionOutput} :
    Triple faults
      (Documented layout plan IsTime inv fixed provenance ⟨.running, none⟩ attempt)
      (collect codec services layout execution)
      (fun _ => Documented layout plan IsTime inv fixed provenance
        ⟨collectedState execution, none⟩ attempt)
      (Undone inv) := by
  apply Triple.mapError
  refine Triple.when (fun hcondition => ?_) fun hcondition w v h => ?_
  · have hsucceeded : execution.terminalState = .succeeded := by simpa using hcondition
    rw [collectedState, if_pos hsucceeded]
    exact documented_transition hinv hclock (Or.inr rfl)
  · have hfailed : execution.terminalState ≠ .succeeded := by simpa using hcondition
    rwa [collectedState, if_neg hfailed]

theorem documented_finalize (hinv : Undisturbed layout inv)
    (hclock : ∀ n, IsTime (services.clock n)) {execution : ExecutionOutput}
    (hterminal : execution.terminalState.isTerminal = true) {validity : ValidityResult}
    {summary : RunSummary} {source : RunState} :
    Triple faults
      (Documented layout plan IsTime inv fixed provenance ⟨source, none⟩ attempt)
      (finalize codec services layout plan execution validity summary)
      (fun _ => Documented layout plan IsTime inv
        (finalContents layout plan fixed execution validity summary) provenance
        ⟨execution.terminalState, execution.failure⟩ attempt)
      (Undone inv) := by
  apply Triple.mapError
  refine Triple.andThen (documented_transition hinv hclock (Or.inr rfl)) fun _ => ?_
  refine Triple.andThen (documented_transition hinv hclock (Or.inl hterminal)) fun _ => ?_
  refine Triple.andThen (documented_payload hinv rfl) fun _ => ?_
  refine Triple.andThen (documented_payload hinv rfl) fun _ => ?_
  refine (documented_payload hinv rfl).conseq (fun _ _ h => h) (fun _ w v h => ?_)
    fun _ _ _ h => h
  rw [← update_finalContents]
  exact h

/-- The phases up to the publication, which is left to the caller with what it fails in. -/
theorem documented_attemptRun (hinv : Undisturbed layout inv)
    (hclock : ∀ n, IsTime (services.clock n)) {kind : ExecutionKind}
    (hkind : IsExecutable plan kind) {createdAt : String} (htime : IsTime createdAt)
    {execution : ExecutionOutput} (hexecution : executeRuntime codec services plan kind = execution)
    {post : RunResult → DiskWorld → RunLocals → Prop}
    (hpublish : ∀ validity ended,
      evaluateValidity plan execution layout.runId.text = some validity →
      attemptTerminal execution.terminalState = some ended →
      Triple faults
        (Documented layout plan IsTime inv (executedContents layout
          (requestContents codec.formatFloat bytes plan) execution)
          (recordedProvenance services layout plan execution)
          ⟨collectedState execution, none⟩ ⟨ended, execution.failure⟩)
        (publishEvidence codec services layout plan execution validity
          (summarize plan execution validity layout.runId.text))
        post (Undone inv)) :
    Triple faults
      (Shows layout inv (fun _ => none) (initialLocals plan layout.runId.text createdAt))
      (attemptRun codec services layout bytes plan kind
        (Lifecycle.new layout.runId.text createdAt 1).2)
      post (Undone inv) := by
  have hterminal : execution.terminalState.isTerminal = true :=
    hexecution ▸ executeRuntime_terminal
  obtain ⟨ended, hended⟩ := Option.isSome_iff_exists.mp (attemptTerminal_isSome hterminal)
  refine Triple.andThen (documented_stageInitial hinv htime) fun _ => ?_
  refine Triple.andThen (documented_prepare hinv hclock hkind) fun captured => ?_
  rintro w v ⟨hcapture, h⟩
  refine (?_ : Triple faults (Documented layout plan IsTime inv
    (requestContents codec.formatFloat bytes plan) (some captured) ⟨.preparing, none⟩
    ⟨.preparing, none⟩) _ _ _) w v h
  refine Triple.andThen (documented_beginRunning hinv hclock) fun _ => ?_
  refine Triple.andThen (documented_recordProvenance hinv hkind hcapture) fun _ => ?_
  rw [hexecution]
  refine Triple.andThen (documented_endAttempt hinv hclock hended) fun _ => ?_
  refine Triple.andThen (documented_recordResources hinv rfl) fun _ => ?_
  refine Triple.andThen (documented_recordMeasurements hinv rfl) fun _ => ?_
  rw [update_executedContents]
  refine Triple.andThen (documented_collect hinv hclock) fun _ => ?_
  -- a terminal state has a validity, so the expectation of the source is met
  refine Triple.via (fun validity w v =>
    evaluateValidity plan execution layout.runId.text = some validity ∧
      Documented layout plan IsTime inv (executedContents layout
        (requestContents codec.formatFloat bytes plan) execution)
        (recordedProvenance services layout plan execution) ⟨collectedState execution, none⟩
        ⟨ended, execution.failure⟩ w v)
    (Triple.orPanic (evaluateValidity_isSome hterminal) fun validity hvalidity w v h =>
      ⟨hvalidity, h⟩) fun validity => ?_
  rintro w v ⟨hvalidity, h⟩
  exact hpublish validity ended hvalidity hended w v h

/-- A captured provenance takes the facts of the execution it is recorded for. -/
theorem exists_recordedProvenance {kind : ExecutionKind} (hkind : IsExecutable plan kind) :
    ∃ provenance, recordedProvenance services layout plan
      (executeRuntime codec services plan kind) = some provenance := by
  obtain ⟨captured, hcapture⟩ := Option.isSome_iff_exists.mp
    (@capture_isSome_of_executable plan kind services.host layout.runId.text hkind)
  unfold recordedProvenance
  rw [hcapture, Option.bind_some]
  cases hnvidia : (executeRuntime codec services plan kind).nvidiaGpu with
  | none => exact ⟨captured, rfl⟩
  | some nvidia => exact Option.isSome_iff_exists.mp (attachNvidia_isSome hkind hcapture hnvidia)

end

end Benchplane
