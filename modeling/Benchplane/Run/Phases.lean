import Benchplane.Run.Course

/-!
# The phases of a run

Each phase of an allocated run takes the lifecycle from one state to the next, and
the whole run, published or failed, has been coherent at every moment.
-/

namespace Benchplane

open Library

/-! ## Executions -/

section

variable {codec : Codec} {services : Services} {plan : ResolvedExperiment} {kind : ExecutionKind}

/-- Every runtime returns a terminal state. -/
theorem executeRuntime_terminal :
    (executeRuntime codec services plan kind).terminalState.isTerminal = true := by
  cases kind with
  | localFake seed scenario => cases scenario <;> rfl
  | cpuProbe config =>
      simp only [executeRuntime, CpuProbe.execute, CpuProbe.intoExecutionOutput]
      split <;> rfl
  | llamaCpp config =>
      simp only [executeRuntime, LlamaCpp.execute, LlamaCpp.intoExecutionOutput]
      split
      · rfl
      · split
        · rfl
        · split <;> rfl
        · rfl

theorem attemptTerminal_isSome {state : RunState} (h : state.isTerminal = true) :
    (attemptTerminal state).isSome = true := by
  cases state <;> simp_all [RunState.isTerminal, attemptTerminal]

/-- The status of a terminal state is terminal. -/
theorem isTerminal_of_attemptTerminal {state : RunState} {status : AttemptStatus}
    (h : attemptTerminal state = some status) : status.isTerminal = true := by
  cases state <;> simp only [attemptTerminal, Option.some.injEq, reduceCtorEq] at h <;>
    subst h <;> rfl

theorem evaluateValidity_isSome {output : ExecutionOutput} {runId : String}
    (h : output.terminalState.isTerminal = true) :
    (evaluateValidity plan output runId).isSome = true := by
  unfold evaluateValidity
  cases hstate : output.terminalState <;> simp_all [RunState.isTerminal]
  split <;> rfl

/-- The captured provenance takes the NVIDIA facts of an execution that has them. -/
theorem attachNvidia_isSome {host : Host} {runId : String} {provenance : AttemptProvenance}
    {nvidia : NvidiaGpuProvenance} (hkind : IsExecutable plan kind)
    (hcapture : capture host runId plan = some provenance)
    (hnvidia : (executeRuntime codec services plan kind).nvidiaGpu = some nvidia) :
    (attachNvidia provenance nvidia).toOption.isSome = true := by
  cases hkind with
  | localFake provider runtime =>
      rename_i seed scenario
      cases scenario <;> simp [executeRuntime, LocalFake.execute] at hnvidia
  | cpuProbe provider runtime =>
      simp [executeRuntime, CpuProbe.execute, CpuProbe.intoExecutionOutput] at hnvidia
  | llamaCpp provider runtime =>
      rename_i target model outputTokens
      have htarget : target = .nvidiaCuda := by
        simp only [executeRuntime] at hnvidia
        exact LlamaCpp.target_of_nvidiaGpu (Option.ne_none_iff_exists'.mpr ⟨nvidia, hnvidia⟩)
      subst htarget
      unfold capture at hcapture
      rw [runtime] at hcapture
      simp only [captureRuntime, Option.map_some, Option.some.injEq] at hcapture
      subst hcapture
      simp [attachNvidia, Except.toOption]

theorem capture_isSome_of_executable {host : Host} {runId : String}
    (hkind : IsExecutable plan kind) : (capture host runId plan).isSome = true := by
  refine capture_isSome fun model revision arguments hruntime => ?_
  cases hkind <;> simp_all

end

/-! ## The beginning -/

section

variable {faults : Faults} {codec : Codec} {services : Services} {layout : Layout}
  {bytes : Bytes} {plan : ResolvedExperiment}

/-- Nothing has been journaled and the locals are those of the allocation. -/
def Beginning (layout : Layout) (locals : RunLocals) (past : Past) (v : RunLocals) : Prop :=
  journaled layout past = [] ∧ v = locals

theorem quietly_beginning (locals : RunLocals) : Quietly layout (Beginning layout locals) := by
  rintro attempt past v ⟨hnil, hlocals⟩ hquiet
  exact ⟨by rwa [journaled_of_quiet hquiet], hlocals⟩

/-- Creating directories on the way to the attempt's leaves every payload. -/
theorem keeps_createAttemptDirectory {Q : Past → RunLocals → Prop} (hQ : Quietly layout Q) :
    Keeps faults (Along layout Q) (createDirectory layout.attemptDirectory) := by
  refine Keeps.forEach fun ancestor hancestor => ?_
  have hprefix : ancestor <+: layout.attemptDirectory :=
    (List.mem_inits _ _).mp (List.mem_of_mem_tail hancestor)
  refine Disk.triple_performAs (fun w v tree h happly => ?_) fun w v e h => ?_
  · refine ⟨h.1.quiet ⟨_, true, tree⟩ (Or.inr rfl) (Or.inr ⟨rfl, rfl⟩) rfl
      fun file _ => ?_, hQ ⟨_, _, _⟩ _ _ h.2 (Or.inr rfl)⟩
    exact FileTree.lookup_ensureDirectory happly fun hpath =>
      layout.path_not_ancestor file (hpath.trans hprefix)
  · exact ⟨h.1.quiet ⟨_, false, w.store⟩ (Or.inl rfl) (Or.inl rfl) rfl
      fun _ _ => rfl, hQ ⟨_, _, _⟩ _ _ h.2 (Or.inl rfl)⟩

/-- One payload is aside, where it is not the journal or one of the two records. -/
theorem aside_path (layout : Layout) (file : StagedFile) (hevents : file ≠ .events)
    (hrun : file ≠ .run) (hattempt : file ≠ .attempt) : Aside layout [layout.path file] where
  apart path hpath other hother := by
    have hne : file ≠ other := by cases hother <;> assumption
    exact List.mem_singleton.mp hpath ▸ layout.path_apart hne
  attempt hmem := (layout.temporary_apart .attempt file).ne (List.mem_singleton.mp hmem)

/-- An empty journal is created. -/
theorem triple_createJournal {locals : RunLocals} (hignored : locals.ignored = []) :
    Triple faults (Along layout (Beginning layout locals))
      (createEmptyFile (layout.path .events))
      (fun _ w v => Along layout (Beginning layout locals) w v ∧
        w.store.lookup (layout.path .events) = some (.file []))
      (Halted layout) := by
  refine Disk.triple_performAs ?_ ?_
  · rintro w v tree ⟨h, hnil, hlocals⟩ happly
    have hcreated := FileTree.lookup_createFile_self happly
    have hshown : JournalShown layout tree w.history := by
      refine Or.inr ?_
      rw [hcreated, hnil]
      rfl
    -- the other two records are not touched
    have hrun : tree.lookup (layout.path .run) = w.store.lookup (layout.path .run) :=
      lookup_others happly rfl (by simp)
    have hattempt : tree.lookup (layout.path .attempt) = w.store.lookup (layout.path .attempt) :=
      lookup_others happly rfl (by simp)
    refine ⟨⟨h.extend ⟨_, true, tree⟩
      ((h.journal.of_shown hshown).quiet ⟨_, true, tree⟩ (Or.inr rfl) rfl)
      (h.snapshot.quiet ⟨_, true, tree⟩ (Or.inr rfl) (Or.inr rfl) hrun)
      (h.attempt.quiet ⟨_, true, tree⟩ rfl (Or.inr rfl) hattempt (Or.inr rfl)), ?_⟩, hcreated⟩
    exact quietly_beginning locals ⟨_, true, tree⟩ _ _ ⟨hnil, hlocals⟩ (Or.inr rfl)
  · rintro w v e ⟨h, hside⟩
    refine Along.halted (Q := Beginning layout locals) ⟨h.quiet ⟨_, false, w.store⟩
      (Or.inl rfl) (Or.inl rfl) rfl fun _ _ => rfl,
      quietly_beginning locals ⟨_, false, w.store⟩ _ _ hside (Or.inl rfl)⟩ (hside.2 ▸ hignored)
      ⟨rfl, _, _, rfl, rfl⟩

/-- The first event is appended. -/
theorem triple_appendInitialEvent {createdAt : String} :
    Triple faults (fun w v =>
        Along layout (Beginning layout (initialLocals plan layout.runId.text createdAt)) w v ∧
        w.store.lookup (layout.path .events) = some (.file []))
      (appendJsonLine codec.formatFloat (layout.path .events)
        (.event (Lifecycle.new layout.runId.text createdAt 1).2))
      (fun _ => Along layout (At layout .created (Calm false))) (Halted layout) := by
  refine Disk.triple_performAs ?_ ?_
  · rintro w v tree ⟨⟨h, hnil, rfl⟩, hempty⟩ happly
    -- the first event is that of a new lifecycle
    have hfollows := Lifecycle.follows_new layout.runId.text createdAt 1
    generalize hevent : (Lifecycle.new layout.runId.text createdAt 1).2 = event at happly hfollows ⊢
    have hlabel : (Operation.appendRecord (layout.path .events) (.event event)).event? layout =
        some event := by simp [Operation.event?]
    have hjournal : journaled layout
        (⟨.appendRecord (layout.path .events) (.event event), true, tree⟩ :: w.history) =
        [event] := by
      rw [journaled_of_append rfl hlabel, hnil, List.nil_append]
    obtain ⟨content, hcontent, hafter⟩ := FileTree.lookup_append_self happly
    -- the journal was empty before it
    obtain rfl : [] = content := by
      have hboth := hempty.symm.trans hcontent
      simpa using hboth
    have hrun : tree.lookup (layout.path .run) = w.store.lookup (layout.path .run) :=
      lookup_others happly rfl (by simp)
    have hattempt : tree.lookup (layout.path .attempt) = w.store.lookup (layout.path .attempt) :=
      lookup_others happly rfl (by simp)
    have hcreated : event.toState = .created := by
      rw [← hevent]
      rfl
    refine ⟨h.extend ⟨_, true, tree⟩ ⟨?_, ?_, ?_, ?_⟩ ?_ ?_, ?_, rfl, rfl, rfl⟩
    · refine Or.inr ?_
      rw [hjournal, hafter]
      simp [journalBytes, Record.toJson]
    · intro _
      rw [hjournal]
      exact hfollows.journal
    · intro _ _
      rw [hjournal]
      exact hfollows
    · intro hnil'
      rw [hjournal] at hnil'
      contradiction
    · refine h.snapshot.step ⟨_, true, tree⟩ (Or.inr rfl) hrun fun record hcovered => ?_
      rw [journaled_of_append rfl hlabel]
      exact hcovered.append fun _ => hcreated
    · have hkept : AttemptShown layout tree
          (⟨.appendRecord (layout.path .events) (.event event), true, tree⟩ :: w.history) :=
        AttemptKept.shown_silent h.attempt.shown ⟨_, true, tree⟩ rfl (Or.inr rfl) hattempt
      refine h.attempt.step ⟨_, true, tree⟩ rfl hkept fun hlate => ?_
      rw [hjournal] at hlate
      obtain ⟨other, hmem, hother⟩ := hlate
      rw [List.mem_singleton.mp hmem, hcreated] at hother
      contradiction
    · rw [hjournal]
      simp
  · rintro w v e ⟨⟨h, hside⟩, -⟩
    refine Along.halted (Q := Beginning layout _) ⟨h.quiet ⟨_, false, w.store⟩
      (Or.inl rfl) (Or.inl rfl) rfl fun _ _ => rfl,
      quietly_beginning _ ⟨_, false, w.store⟩ _ _ hside (Or.inl rfl)⟩ (by rw [hside.2]; rfl)
      ⟨rfl, _, _, rfl, rfl⟩

theorem course_stageInitial {createdAt : String} :
    Triple faults
      (Along layout (Beginning layout (initialLocals plan layout.runId.text createdAt)))
      (stageInitial codec layout bytes plan (Lifecycle.new layout.runId.text createdAt 1).2)
      (fun _ => Along layout (At layout .created (Calm false))) (Failed layout) := by
  have hquietly : Quietly layout
      (Beginning layout (initialLocals plan layout.runId.text createdAt)) := quietly_beginning _
  have hcalm : ∀ past v, Beginning layout (initialLocals plan layout.runId.text createdAt) past v →
      v.ignored = [] := fun past v h => by rw [h.2]; rfl
  have hbegun : Quietly layout (At layout .created (Calm false)) :=
    quietly_at (steady_calm false)
  have hbegunCalm : ∀ past v, At layout .created (Calm false) past v → v.ignored = [] :=
    fun past v h => h.2.2.2
  refine Triple.mapError ?_
  refine Triple.andThen (course_quiet hcalm (keeps_createAttemptDirectory hquietly)
    Stops.createDirectory) fun _ => ?_
  refine Triple.andThen (course_quiet hcalm ?_ Stops.writeBytes) fun _ => ?_
  · have hrespects := fun v => respects_along (v := v)
      (aside_path layout .experiment (by simp) (by simp) (by simp)) hquietly
    exact Keeps.andThen (Disk.keeps_performAs hrespects rfl (by simp [FileOperation.scope]))
      fun _ => Disk.keeps_performAs hrespects rfl (by simp [FileOperation.scope])
  refine Triple.andThen (course_payload hquietly hcalm (by simp) (by simp) (by simp)) fun _ => ?_
  -- up to the first event there is no journal, behind it the run is `created`
  refine Triple.andThen (triple_createJournal rfl) fun _ => ?_
  refine Triple.andThen triple_appendInitialEvent fun _ => ?_
  refine Triple.andThen (course_quiet hbegunCalm ?_ Stops.performAs) fun _ => ?_
  · exact Disk.keeps_change (fun v => respects_along
      (aside_path layout .measurements (by simp) (by simp) (by simp)) hbegun)
      (by simp [FileOperation.scope])
  refine Triple.andThen (course_quiet hbegunCalm (keeps_writeRunRecord hbegun)
    (Stops.andThen Stops.get fun _ => Stops.writeJsonAtomic)) fun _ => ?_
  exact course_quiet hbegunCalm
    ((triple_writeAttemptRecord hbegun).weaken fun _ _ => Along.replaced)
    (Stops.andThen Stops.get fun _ => Stops.writeJsonAtomic)

/-! ## From the preparation to the published bundle -/

theorem quietly_calm (state : RunState) (ended : Bool) :
    Quietly layout (At layout state (Calm ended)) :=
  quietly_at (steady_calm ended)

theorem calm_ignored {state : RunState} {ended : Bool} (past : Past) (v : RunLocals)
    (h : At layout state (Calm ended) past v) : v.ignored = [] :=
  h.2.2.2

theorem course_prepare {kind : ExecutionKind} (hkind : IsExecutable plan kind) :
    Triple faults (Along layout (At layout .created (Calm false)))
      (prepare codec services layout plan)
      (fun provenance w v => capture services.host layout.runId.text plan = some provenance ∧
        Along layout (At layout .preparing (Calm false)) w v)
      (Failed layout) := by
  refine Triple.mapError ?_
  refine Triple.andThen (course_transition rfl (by simp [RunState.isLate])) fun _ => ?_
  refine Triple.andThen course_attemptStatus fun _ => ?_
  refine Triple.via (fun provenance w v =>
      capture services.host layout.runId.text plan = some provenance ∧
      Along layout (At layout .preparing (Calm false)) w v)
    (Triple.orPanic (capture_isSome_of_executable hkind) fun provenance hcapture w v h =>
      ⟨hcapture, h⟩) fun provenance => ?_
  intro w v ⟨hcapture, h⟩
  refine (Triple.andThen (course_payload (quietly_calm .preparing false) calm_ignored (by simp)
    (by simp) (by simp)) fun _ => ?_) w v h
  exact fun w v h => ⟨hcapture, h⟩

theorem course_beginRunning :
    Triple faults (Along layout (At layout .preparing (Calm false)))
      (beginRunning codec services layout)
      (fun _ => Along layout (At layout .running (Calm false))) (Failed layout) :=
  Triple.mapError <| Triple.andThen (course_transition rfl (by simp [RunState.isLate]))
    fun _ => course_attemptStatus

theorem course_recordProvenance {kind : ExecutionKind} (hkind : IsExecutable plan kind)
    {provenance : AttemptProvenance}
    (hcapture : capture services.host layout.runId.text plan = some provenance) :
    Triple faults (Along layout (At layout .running (Calm false)))
      (recordProvenance codec layout provenance (executeRuntime codec services plan kind))
      (fun _ => Along layout (At layout .running (Calm false))) (Failed layout) := by
  unfold recordProvenance
  split
  · exact fun _ _ h => h
  · rename_i nvidia hnvidia
    refine Triple.mapError ?_
    refine Triple.via (fun _ => Along layout (At layout .running (Calm false)))
      (Triple.orPanic (attachNvidia_isSome hkind hcapture hnvidia) fun _ _ _ _ h => h)
      fun enriched => ?_
    exact course_payload (quietly_calm .running false) calm_ignored (by simp) (by simp) (by simp)

theorem course_endAttempt {execution : ExecutionOutput}
    (hterminal : execution.terminalState.isTerminal = true) :
    Triple faults (Along layout (At layout .running (Calm false)))
      (endAttempt codec services layout execution)
      (fun _ => Along layout (At layout .running (Calm true))) (Failed layout) := by
  refine Triple.mapError ?_
  refine Triple.via (fun status w v => status.isTerminal = true ∧
      Along layout (At layout .running (Calm false)) w v)
    (Triple.orPanic (attemptTerminal_isSome hterminal) fun status hstatus w v h =>
      ⟨isTerminal_of_attemptTerminal hstatus, h⟩) fun status => ?_
  intro w v ⟨hstatus, h⟩
  exact hstatus ▸ course_attemptStatus w v h

theorem course_recordResources {execution : ExecutionOutput} :
    Triple faults (Along layout (At layout .running (Calm true)))
      (recordResources codec layout execution)
      (fun _ => Along layout (At layout .running (Calm true))) (Failed layout) := by
  unfold recordResources
  split
  · exact fun _ _ h => h
  · exact Triple.mapError (course_payload (quietly_calm .running true) calm_ignored (by simp)
      (by simp) (by simp))

theorem course_recordMeasurements {execution : ExecutionOutput} :
    Triple faults (Along layout (At layout .running (Calm true)))
      (recordMeasurements codec layout execution)
      (fun _ => Along layout (At layout .running (Calm true))) (Failed layout) := by
  refine Triple.mapError (course_quiet calm_ignored ?_ (Stops.forEach fun _ => Stops.performAs))
  exact Keeps.forEach fun _ _ => keeps_appendJsonLine fun v => respects_along
    (aside_path layout .measurements (by simp) (by simp) (by simp)) (quietly_calm .running true)

/-- The state behind the collection. -/
def collectedState (execution : ExecutionOutput) : RunState :=
  if execution.terminalState = .succeeded then .collecting else .running

theorem course_collect {execution : ExecutionOutput} :
    Triple faults (Along layout (At layout .running (Calm true)))
      (collect codec services layout execution)
      (fun _ => Along layout (At layout (collectedState execution) (Calm true)))
      (Failed layout) := by
  refine Triple.mapError (Triple.when (fun hcondition => ?_) fun hcondition w v h => ?_)
  · have hsucceeded : execution.terminalState = .succeeded := by simpa using hcondition
    rw [collectedState, if_pos hsucceeded]
    exact course_transition rfl fun _ => rfl
  · have hfailed : execution.terminalState ≠ .succeeded := by simpa using hcondition
    rwa [collectedState, if_neg hfailed]

theorem course_finalize {execution : ExecutionOutput} {validity : ValidityResult}
    {summary : RunSummary} (hterminal : execution.terminalState.isTerminal = true) :
    Triple faults (Along layout (At layout (collectedState execution) (Calm true)))
      (finalize codec services layout plan execution validity summary)
      (fun _ => Along layout (At layout execution.terminalState (Calm true)))
      (Failed layout) := by
  have hfinalizing : isValidTransition (collectedState execution) .finalizing = true := by
    unfold collectedState
    split <;> rfl
  have hend : isValidTransition .finalizing execution.terminalState = true := by
    generalize execution.terminalState = state at hterminal
    cases state <;> simp_all [RunState.isTerminal, isValidTransition]
  have hquietly : Quietly layout (At layout execution.terminalState (Calm true)) :=
    quietly_calm _ true
  refine Triple.mapError ?_
  refine Triple.andThen (course_transition hfinalizing fun _ => rfl) fun _ => ?_
  refine Triple.andThen (course_transition hend fun _ => rfl) fun _ => ?_
  refine Triple.andThen (course_payload hquietly calm_ignored (by simp) (by simp) (by simp))
    fun _ => ?_
  refine Triple.andThen (course_payload hquietly calm_ignored (by simp) (by simp) (by simp))
    fun _ => ?_
  exact course_payload hquietly calm_ignored (by simp) (by simp) (by simp)

/-- The checksum files are aside. -/
theorem aside_checksums (layout : Layout) :
    Aside layout [layout.staging ++ [checksumTemporaryName],
      layout.staging ++ [checksumFileName]] where
  apart path hpath file _ := by
    simp only [List.mem_cons, List.not_mem_nil, or_false] at hpath
    rcases hpath with rfl | rfl
    · exact (layout.checksums_apart file).2
    · exact (layout.checksums_apart file).1
  attempt hmem := by
    simp only [List.mem_cons, List.not_mem_nil, or_false] at hmem
    rcases hmem with hsame | hsame
    · exact absurd (List.append_cancel_left hsame) (by decide)
    · exact absurd (List.append_cancel_left hsame) (by decide)

theorem aside_nil (layout : Layout) : Aside layout [] :=
  ⟨fun _ hpath => absurd hpath List.not_mem_nil, List.not_mem_nil⟩

theorem course_writeInventory {state : RunState} :
    Triple faults (Along layout (At layout state (Calm true))) (writeInventory codec layout)
      (fun _ => Along layout (At layout state (Calm true))) (Failed layout) :=
  Triple.mapError <| course_evidence <| keeps_writeChecksumFile fun _ =>
    respects_along (aside_checksums layout) (quietly_calm state true)

theorem course_verify {state : RunState} :
    Triple faults (Along layout (At layout state (Calm true))) (verify codec layout)
      (fun _ => Along layout (At layout state (Calm true))) (Failed layout) := by
  refine Triple.mapError (Triple.andThen (course_evidence ?_) fun _ => fun _ _ h => h)
  exact Disk.keeps_read fun _ => respects_along (aside_nil layout) (quietly_calm state true)

/-- Two different directories of the output root. -/
theorem Layout.staging_apart_finalPath (layout : Layout) :
    Apart layout.staging layout.finalPath := by
  unfold Layout.staging Layout.finalPath Layout.stagingParent Layout.runsParent
  rw [List.append_assoc, List.append_assoc]
  refine apart_append ⟨fun h => ?_, fun h => ?_⟩
  · have hhead := (List.cons_prefix_cons.mp h).1
    exact absurd hhead (by decide)
  · have hhead := (List.cons_prefix_cons.mp h).1
    exact absurd hhead (by decide)

/-- The staging directory becomes the published one. -/
theorem course_publish {state : RunState} :
    Triple faults (Along layout (At layout state (Calm true))) (publish layout)
      (fun _ => Along layout (Calm true)) (Failed layout) := by
  have hquietly : Quietly layout (At layout state (Calm true)) := quietly_calm state true
  refine Triple.mapError ?_
  refine Triple.andThen (Disk.triple_pathExists fun _ => respects_along (aside_nil layout)
    hquietly) fun conflict => ?_
  refine Triple.via (fun _ => Along layout (At layout state (Calm true)))
    (Triple.when (fun _ w v h => ?_) fun _ _ _ h => h) fun _ => ?_
  · exact ⟨h.excused, rfl⟩
  refine Disk.triple_performAs ?_ ?_
  · rintro w v tree ⟨h, -, -, hcalm⟩ happly
    have hapart := layout.staging_apart_finalPath
    obtain ⟨-, hgone⟩ := FileTree.lookup_rename happly hapart.ne hapart.2
    -- the staged files are gone with their directory, so they show nothing any more
    have hnone : ∀ file, tree.lookup (layout.path file) = none := fun file => by
      rw [Layout.path, FileTree.lookup_append, hgone]
      rfl
    exact ⟨h.extend ⟨_, true, tree⟩
      ((h.journal.of_shown (Or.inl (hnone .events))).quiet ⟨_, true, tree⟩
        (Or.inr rfl) rfl)
      ((h.snapshot.of_shown (Or.inl (hnone .run))).quiet ⟨_, true, tree⟩
        (Or.inr rfl) (Or.inr rfl) rfl)
      ((h.attempt.of_shown (Or.inl (hnone .attempt))).quiet ⟨_, true, tree⟩ rfl
        (Or.inr rfl) rfl (Or.inr rfl)), hcalm⟩
  · rintro w v e h
    refine Along.halted (Q := At layout state (Calm true)) ⟨h.1.quiet
      ⟨_, false, w.store⟩ (Or.inl rfl) (Or.inl rfl) rfl fun _ _ => rfl,
      hquietly ⟨_, false, w.store⟩ _ _ h.2 (Or.inl rfl)⟩ h.2.2.2.2 ⟨rfl, _, _, rfl, rfl⟩

/-! ## The whole run -/

theorem course_publishEvidence {execution : ExecutionOutput} {validity : ValidityResult}
    {summary : RunSummary} (hterminal : execution.terminalState.isTerminal = true) :
    Triple faults (Along layout (At layout (collectedState execution) (Calm true)))
      (publishEvidence codec services layout plan execution validity summary)
      (fun _ => Along layout (Calm true)) (Failed layout) := by
  refine Triple.andThen (course_finalize hterminal) fun _ => ?_
  refine Triple.andThen course_writeInventory fun pending => ?_
  refine Triple.andThen course_verify fun _ => ?_
  exact Triple.andThen course_publish fun _ _ _ h => h

theorem course_attemptRun {kind : ExecutionKind} (hkind : IsExecutable plan kind)
    {createdAt : String} :
    Triple faults
      (Along layout (Beginning layout (initialLocals plan layout.runId.text createdAt)))
      (attemptRun codec services layout bytes plan kind
        (Lifecycle.new layout.runId.text createdAt 1).2)
      (fun _ => Along layout (Calm true)) (Failed layout) := by
  have hterminal : (executeRuntime codec services plan kind).terminalState.isTerminal = true :=
    executeRuntime_terminal
  refine Triple.andThen course_stageInitial fun _ => ?_
  refine Triple.andThen (course_prepare hkind) fun provenance => ?_
  intro w v ⟨hcapture, h⟩
  refine (?_ : Triple faults (Along layout (At layout .preparing (Calm false))) _ _ _) w v h
  refine Triple.andThen course_beginRunning fun _ => ?_
  refine Triple.andThen (course_recordProvenance hkind hcapture) fun _ => ?_
  refine Triple.andThen (course_endAttempt hterminal) fun _ => ?_
  refine Triple.andThen course_recordResources fun _ => ?_
  refine Triple.andThen course_recordMeasurements fun _ => ?_
  refine Triple.andThen course_collect fun _ => ?_
  refine Triple.andThen (Triple.orPanic (evaluateValidity_isSome hterminal)
    fun _ _ _ _ h => h) fun validity => ?_
  exact course_publishEvidence hterminal

/-- An allocated run is coherent at its end, its failure and the ignored ones do not come
from the lifecycle. -/
theorem course_allocatedRun {kind : ExecutionKind} (hkind : IsExecutable plan kind)
    {createdAt : String} :
    Triple faults
      (Along layout (Beginning layout (initialLocals plan layout.runId.text createdAt)))
      (allocatedRun codec services layout bytes plan kind
        (Lifecycle.new layout.runId.text createdAt 1).2)
      (fun _ => Along layout (Calm true)) (Halted layout) := by
  refine Triple.recover (course_attemptRun hkind) fun failure => ?_
  refine Triple.via (fun _ w v => Along layout (Excusable layout) w v ∧
      failure.source.isLifecycle = false) ?_ fun _ w v h => h
  intro w v h
  exact (triple_persistAllocatedFailure w v h.1).mono (fun _ _ _ hafter => ⟨hafter, h.2⟩)
    fun _ _ _ hfailed => hfailed

end

end Benchplane
