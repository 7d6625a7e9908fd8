import Benchplane.Run.SubmittedEvidence

/-!
# The published evidence of a run

A bundle that a run has published holds the evidence of that run's request and execution,
and nothing that a payload of it tells is left open.
-/

namespace Benchplane

open Library

/-- A directory with the evidence of one request and one execution. -/
structure Recounts (codec : Codec) (services : Services) (layout : Layout) (bytes : Bytes)
    (plan : ResolvedExperiment) (execution : ExecutionOutput) (d : Directory) : Prop where
  request : d.lookup StagedFile.experiment.path = some (.file bytes) ∧
    d.lookup StagedFile.plan.path = some (.file (jsonBytes (plan.toJson codec.formatFloat)))
  measurements : d.lookup StagedFile.measurements.path =
    some (.file (measurementLines execution.measurements))
  resources : d.lookup StagedFile.resources.path = execution.resources.map fun resources =>
    .file (jsonBytes (attemptResources layout.runId.text resources).toJson)
  provenance : ∃ provenance, recordedProvenance services layout plan execution = some provenance ∧
    d.lookup StagedFile.provenance.path = some (.file (jsonBytes provenance.toJson))
  results : ∃ validity, evaluateValidity plan execution layout.runId.text = some validity ∧
    d.lookup StagedFile.validity.path = some (.file (jsonBytes validity.toJson)) ∧
    d.lookup StagedFile.summary.path = some (.file (jsonBytes
      (summarize plan execution validity layout.runId.text).toJson)) ∧
    d.lookup StagedFile.manifest.path = some (.file (jsonBytes (evidenceManifest plan
      layout.runId.text execution.terminalState validity.status).toJson))
  journal : ∃ events first last, IsJournal events ∧ OwnEvents layout events ∧
    events.head? = some first ∧ events.getLast? = some last ∧
    last.toState = execution.terminalState ∧ last.failure = execution.failure ∧
    d.lookup StagedFile.events.path = some (.file (journalBytes events)) ∧
    d.lookup StagedFile.run.path =
      some (.file (jsonBytes (runRecordOf layout plan first last).toJson)) ∧
    ∃ ended updatedAt, attemptTerminal execution.terminalState = some ended ∧
      d.lookup StagedFile.attempt.path = some (.file (jsonBytes (attemptRecordOf layout
        first.recordedAt updatedAt ended execution.failure).toJson))

section

variable {faults : Faults} {codec : Codec} {services : Services} {layout : Layout}
  {bytes : Bytes} {plan : ResolvedExperiment} {IsTime : String → Prop}

/-- What the records of a finalized run tell is what a directory with them recounts. -/
theorem recounts_of_account {execution : ExecutionOutput} {validity : ValidityResult}
    {ended : AttemptStatus} {events : List LifecycleEvent} {v : RunLocals} {d : Directory}
    {provenance : AttemptProvenance}
    (hprovenance : recordedProvenance services layout plan execution = some provenance)
    (hvalidity : evaluateValidity plan execution layout.runId.text = some validity)
    (hended : attemptTerminal execution.terminalState = some ended)
    (haccount : Account layout plan IsTime ⟨execution.terminalState, execution.failure⟩
      ⟨ended, execution.failure⟩ events v)
    (hfiles : ∀ file : StagedFile, d.lookup file.path = (contentsOf (finalContents layout plan
      (executedContents layout (requestContents codec.formatFloat bytes plan) execution)
      execution validity (summarize plan execution validity layout.runId.text)) events
      (provenanceBytes (some provenance)) v file).map Node.file) :
    Recounts codec services layout bytes plan execution d := by
  obtain ⟨first, last, hfirst, hlast, hstate, hfailure, hrun⟩ := haccount.run
  obtain ⟨first', updatedAt, hfirst', -, hattempt⟩ := haccount.attempt
  -- both records take their creation from the first event
  obtain rfl : first = first' := Option.some.inj (hfirst.symm.trans hfirst')
  constructor
  case request => exact ⟨hfiles .experiment, hfiles .plan⟩
  case measurements => exact hfiles .measurements
  case resources =>
    have hresources := hfiles .resources
    rw [hresources]
    simp only [contentsOf, finalContents, executedContents, Option.map_map]
    rfl
  case provenance => exact ⟨provenance, hprovenance, hfiles .provenance⟩
  case results =>
    exact ⟨validity, hvalidity, hfiles .validity, hfiles .summary, hfiles .manifest⟩
  case journal =>
    refine ⟨events, first, last, haccount.follows.journal, haccount.own, hfirst, hlast, hstate,
      hfailure, hfiles .events, ?_, ended, updatedAt, hended, ?_⟩
    · rw [← hrun]
      exact hfiles .run
    · rw [← hattempt]
      exact hfiles .attempt

/-- The publication ends with a directory that recounts the execution. -/
theorem triple_publishEvidence_recounts {execution : ExecutionOutput} {validity : ValidityResult}
    {ended : AttemptStatus} {before : Option Node} {source : RunState}
    {provenance : AttemptProvenance} (hclock : ∀ n, IsTime (services.clock n))
    (hterminal : execution.terminalState.isTerminal = true)
    (hprovenance : recordedProvenance services layout plan execution = some provenance)
    (hvalidity : evaluateValidity plan execution layout.runId.text = some validity)
    (hended : attemptTerminal execution.terminalState = some ended) :
    Triple faults
      (Documented layout plan IsTime (fun w => w.store.lookup layout.finalPath = before)
        (executedContents layout (requestContents codec.formatFloat bytes plan) execution)
        (some provenance) ⟨source, none⟩ ⟨ended, execution.failure⟩)
      (publishEvidence codec services layout plan execution validity
        (summarize plan execution validity layout.runId.text))
      (fun _ w _ => ∃ d, w.store.lookup layout.finalPath = some (.directory d) ∧
        Recounts codec services layout bytes plan execution d)
      (Undone fun w => w.store.lookup layout.finalPath = before) := by
  have hinv := undisturbed_finalPath layout before
  refine Triple.andThen (documented_finalize hinv hclock hterminal) fun _ => ?_
  intro w v hdocumented
  obtain ⟨events, haccount, hholds⟩ := hdocumented.holds
  have hjournal : contentsOf (finalContents layout plan (executedContents layout
      (requestContents codec.formatFloat bytes plan) execution) execution validity
      (summarize plan execution validity layout.runId.text)) events
      (provenanceBytes (some provenance)) v .events = some (journalBytes events) := rfl
  refine (Triple.andThen (triple_writeInventory hjournal) fun pending => ?_) w v
    ⟨hdocumented.kept, hholds⟩
  -- the directory that is inventoried is the one that moves
  apply Triple.exists
  intro d
  refine Triple.andThen triple_verify fun _ => ?_
  intro w v ⟨hinventoried, hverified⟩
  -- it recounts the run already before it moves
  have hrecounts : Recounts codec services layout bytes plan execution d :=
    recounts_of_account hprovenance hvalidity hended haccount hinventoried.2.2.1
  refine (Triple.andThen triple_publish fun _ => ?_) w v ⟨hinventoried, hverified⟩
  rintro w v ⟨hmoved, -, -⟩
  exact ⟨d, hmoved, hrecounts⟩

/-- What an accepted request publishes recounts it. -/
theorem meets_recounts {outputRoot : List FileName} {kind : ExecutionKind}
    (haccept : acceptRequest codec services bytes = .ok (plan, kind)) (disk : FileTree) :
    (runOn codec services outputRoot bytes faults disk).Meets
      (fun _ w _ => ∃ d, w.store.lookup (services.layout outputRoot).finalPath =
          some (.directory d) ∧
        Recounts codec services (services.layout outputRoot) bytes plan
          (executeRuntime codec services plan kind) d)
      (fun _ _ _ => True) := by
  have hkind := isExecutable_of_acceptRequest haccept
  obtain ⟨provenance, hprovenance⟩ :=
    @exists_recordedProvenance codec services (services.layout outputRoot) plan kind hkind
  have hinv := undisturbed_finalPath (services.layout outputRoot)
    (disk.lookup (services.layout outputRoot).finalPath)
  have hrun : Triple faults
      (fun w trace => w.store.lookup (services.layout outputRoot).finalPath =
        disk.lookup (services.layout outputRoot).finalPath ∧ trace.idsDrawn = 0)
      (acceptedRun codec services outputRoot bytes plan kind)
      (fun _ w _ => ∃ d, w.store.lookup (services.layout outputRoot).finalPath =
          some (.directory d) ∧
        Recounts codec services (services.layout outputRoot) bytes plan
          (executeRuntime codec services plan kind) d)
      (fun error w _ => error.isRequestRejection = false ∧
        w.store.lookup (services.layout outputRoot).finalPath =
          disk.lookup (services.layout outputRoot).finalPath) := by
    apply triple_acceptedRun hinv
    intro createdAt
    apply @documented_attemptRun faults codec services (services.layout outputRoot) bytes plan
      (fun _ => True) _ hinv (fun _ => trivial) kind hkind createdAt trivial _ rfl
    intro validity ended hvalidity hended
    rw [hprovenance]
    exact triple_publishEvidence_recounts (fun _ => trivial) executeRuntime_terminal
      hprovenance hvalidity hended
  rw [runOn_of_accepted haccept]
  exact (hrun ⟨disk, 0, []⟩ ⟨0, []⟩ ⟨rfl, rfl⟩).mono (fun _ _ _ h => h) fun _ _ _ _ => trivial

end

/-- A run that returns a result has published a bundle with its request, the measurements,
resources and provenance of its execution, the results computed from them, a journal that
walks the lifecycle to the end of that execution, and the two records that follow from the
journal. -/
theorem runOn_recounts (faults : Faults) (codec : Codec) (services : Services)
    (outputRoot : List FileName) (bytes : Bytes) (disk : FileTree) (result : RunResult)
    (hok : (runOn codec services outputRoot bytes faults disk).outcome = .ok result) :
    ∃ plan kind d, acceptRequest codec services bytes = .ok (plan, kind) ∧
      (runOn codec services outputRoot bytes faults disk).world.store.lookup
        (services.layout outputRoot).finalPath = some (.directory d) ∧
      Recounts codec services (services.layout outputRoot) bytes plan
        (executeRuntime codec services plan kind) d := by
  cases haccept : acceptRequest codec services bytes with
  | error error =>
      rw [runOn_of_rejected haccept] at hok
      contradiction
  | ok request =>
      obtain ⟨plan, kind⟩ := request
      have hend := @meets_recounts faults codec services bytes plan outputRoot kind haccept disk
      unfold Ended.Meets at hend
      rw [hok] at hend
      obtain ⟨d, hd⟩ := hend
      exact ⟨plan, kind, d, rfl, hd⟩

theorem runOn_recounts_sample : ∃ plan kind d,
    acceptRequest SampleRun.readingCodec SampleRun.services (utf8 SampleRun.document) =
        .ok (plan, kind) ∧
      (runOn SampleRun.readingCodec SampleRun.services [] (utf8 SampleRun.document) noFaults
        .empty).world.store.lookup (SampleRun.services.layout []).finalPath =
          some (.directory d) ∧
      Recounts SampleRun.readingCodec SampleRun.services (SampleRun.services.layout [])
        (utf8 SampleRun.document) plan
        (executeRuntime SampleRun.readingCodec SampleRun.services plan kind) d := by
  obtain ⟨result, hok⟩ := SampleRun.publishes SampleRun.room
  exact runOn_recounts noFaults _ _ _ _ _ result hok

end Benchplane
