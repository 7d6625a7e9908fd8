import Benchplane.Cli.Archive
import Benchplane.Run.RetainedStaging

/-!
# Where a run leaves its evidence

The exit code of `run` tells where to look.  A result is in the final directory, a run that
has failed behind its allocation has left its staging directory, and before that there is
neither.
-/

namespace Benchplane

open Library

/-! ## How far a run has got when it fails -/

section

variable {ρ : Type} {faults : Faults} {codec : Codec} {services : Services} {layout : Layout}
  {bytes : Bytes} {plan : ResolvedExperiment} {disk tree : FileTree} {kind : ExecutionKind}

theorem raises_performAs {ε : Type} {label : Operation} {operation : FileOperation}
    {failure : IoError → ε} {kind : ε → Prop} (h : ∀ cause, kind (failure cause)) :
    Raises (Disk.performAs label operation failure : DiskProgram ρ ε Unit) kind := by
  apply Raises.perform h
  intro tree e he
  split at he
  · exact Except.error.inj he ▸ h _
  · contradiction

theorem raises_createDirectory {path : List FileName} :
    Raises (createDirectory path : DiskProgram ρ RunError Unit)
      (fun error => error.isFinalizationFailure = false) := by
  apply Raises.forEach
  intro ancestor _
  exact raises_performAs fun _ => rfl

/-- The error of a run that has been allocated. -/
def Layout.Retained (layout : Layout) (error : RunError) : Prop :=
  ∃ phase source, error =
    .allocated layout.runId.text phase (displayPath layout.staging) source

/-- Behind the allocation there is one kind of error, since the clean-up has none. -/
theorem raises_allocatedRun {initialEvent : LifecycleEvent} :
    Raises (allocatedRun codec services layout bytes plan kind initialEvent) layout.Retained := by
  apply Raises.recover
  intro failure
  refine Raises.andThen (Raises.of_unfailing fun faults => triple_cleanup_tells) fun _ => ?_
  exact Raises.fail ⟨_, _, rfl⟩

/-- The error of a run says how far the run has got. -/
def Layout.Stopped (layout : Layout) (disk : FileTree) (error : RunError) (w : DiskWorld) :
    Prop :=
  (error.isFinalizationFailure = true ∧ layout.Retained error ∧ Traced layout disk .allocated w) ∨
    (error.isFinalizationFailure = false ∧ Traced layout disk .opening w)

/-- A step that fails before the allocation. -/
theorem fails_opening {p : DiskProgram ρ RunError Unit} {post : DiskWorld → Prop}
    (hleads : Leads faults (Traced layout disk .opening) p post (Traced layout disk .opening))
    (hraises : Raises p fun error => error.isFinalizationFailure = false) :
    Fails faults (Traced layout disk .opening) p (layout.Stopped disk) :=
  Fails.of_leads hleads hraises fun _ _ herror h => Or.inr ⟨herror, h⟩

theorem fails_openedRun :
    Fails faults (Traced layout disk .opening)
      (openedRun codec services layout bytes plan kind) (layout.Stopped disk) := by
  have hstaging : Maintains faults (Traced layout disk .opening)
      (createDirectory layout.stagingParent : DiskProgram RunTrace RunError Unit) :=
    maintains_createParent (Or.inl rfl)
  have hruns : Maintains faults (Traced layout disk .opening)
      (createDirectory layout.runsParent : DiskProgram RunTrace RunError Unit) :=
    maintains_createParent (Or.inr rfl)
  have hclock : Maintains faults (Traced layout disk .allocated)
      (Program.now services.clock : DiskProgram RunTrace RunError String) := maintains_now
  apply Fails.andThen (fails_opening hstaging raises_createDirectory) hstaging
  intro _
  apply Fails.andThen (fails_opening hruns raises_createDirectory) hruns
  intro _
  apply Fails.andThen (fails_opening leads_allocate (raises_performAs fun _ => rfl)) leads_allocate
  intro _
  refine Fails.andThen Fails.now hclock fun createdAt => ?_
  apply Fails.nested
  refine Fails.of_leads leads_allocatedRun raises_allocatedRun fun error w herror h => ?_
  refine Or.inl ⟨?_, herror, h⟩
  obtain ⟨phase, source, rfl⟩ := herror
  rfl

end

/-- Every run that fails stops as its error says. -/
theorem stopped_runOn {faults : Faults} {codec : Codec} {services : Services}
    {outputRoot : List FileName} {bytes : Bytes} {disk : FileTree} {error : RunError}
    (h : (runOn codec services outputRoot bytes faults disk).outcome = .error error) :
    (services.layout outputRoot).Stopped disk error
      (runOn codec services outputRoot bytes faults disk).world := by
  have hstart : Traced (services.layout outputRoot) disk .opening ⟨disk, 0, []⟩ :=
    ⟨Relation.ReflTransGen.refl, fun _ h => absurd h List.not_mem_nil⟩
  cases haccept : acceptRequest codec services bytes with
  | error rejection =>
      rw [runOn_of_rejected haccept] at h ⊢
      obtain rfl := Outcome.error.inj h
      have hrejection := acceptRequest_eq_error haccept
      refine Or.inr ⟨?_, hstart⟩
      cases rejection with
      | allocated runId phase path source => contradiction
      | _ => rfl
  | ok request =>
      obtain ⟨plan, kind⟩ := request
      rw [runOn_opened haccept] at h ⊢
      exact fails_openedRun _ ⟨1, []⟩ error hstart h

/-! ## What that means for the disk -/

section

variable {layout : Layout} {disk tree : FileTree} {path : List FileName}

/-- Before the allocation only the two parents are made. -/
theorem RunMoves.lookup_opening (h : RunMoves layout disk .opening tree)
    (hstagingParent : ¬ path <+: layout.stagingParent)
    (hrunsParent : ¬ path <+: layout.runsParent) : tree.lookup path = disk.lookup path := by
  unfold RunMoves at h
  suffices hall : ∀ state, Relation.ReflTransGen (RunMove layout) (.opening, disk) state →
      state.1 = .opening → state.2.lookup path = disk.lookup path from hall _ h rfl
  -- a state before the allocation comes from such a state only
  intro state hstate
  induction hstate with
  | refl =>
      intro _
      rfl
  | tail _ hmove ih =>
      intro hopening
      cases hmove with
      | parent hpath happly =>
          rw [FileTree.lookup_ensureDirectory happly]
          · exact ih rfl
          · intro hbelow
            rcases hpath with hparent | hparent
            · exact hstagingParent (hbelow.trans hparent)
            · exact hrunsParent (hbelow.trans hparent)
      | allocate happly => contradiction
      | ensure hpath happly => contradiction
      | work hscope happly => contradiction
      | publish happly => contradiction

theorem Layout.staging_spared (layout : Layout) :
    ¬ layout.staging <+: layout.stagingParent ∧ ¬ layout.staging <+: layout.runsParent := by
  have hlength : layout.staging.length = layout.outputRoot.length + 2 := by
    simp [Layout.staging, Layout.stagingParent]
  constructor
  · intro h
    have hle := h.length_le
    simp only [hlength, Layout.stagingParent, List.length_append, List.length_singleton] at hle
    omega
  · intro h
    have hle := h.length_le
    simp only [hlength, Layout.runsParent, List.length_append, List.length_singleton] at hle
    omega

/-- The staging directory where a run has stopped. -/
theorem Layout.Stopped.staging {error : RunError} {w : DiskWorld}
    (h : layout.Stopped disk error w) :
    (error.isFinalizationFailure = true ∧ layout.Retained error ∧
      disk.lookup layout.staging = none ∧
      ∃ d, w.store.lookup layout.staging = some (.directory d)) ∨
    (error.isFinalizationFailure = false ∧
      w.store.lookup layout.staging = disk.lookup layout.staging) := by
  rcases h with ⟨hfinal, hretained, htraced⟩ | ⟨hearly, htraced⟩
  · obtain ⟨-, hnew, hd⟩ := htraced.now.owned
    exact Or.inl ⟨hfinal, hretained, hnew, hd⟩
  · obtain ⟨hstagingParent, hrunsParent⟩ := layout.staging_spared
    exact Or.inr ⟨hearly, htraced.now.lookup_opening hstagingParent hrunsParent⟩

end

/-- The final directory where a run has stopped. -/
theorem finalPath_of_error {faults : Faults} {codec : Codec} {services : Services}
    {outputRoot : List FileName} {bytes : Bytes} {disk : FileTree} {error : RunError}
    (h : (runOn codec services outputRoot bytes faults disk).outcome = .error error) :
    (runOn codec services outputRoot bytes faults disk).world.store.lookup
        (services.layout outputRoot).finalPath =
      disk.lookup (services.layout outputRoot).finalPath := by
  have hend := triple_runExperiment_endsAtomically faults codec services outputRoot bytes disk
    ⟨disk, 0, []⟩ ⟨0, []⟩ ⟨rfl, rfl, rfl⟩
  unfold Ended.Meets at hend
  unfold runOn at h ⊢
  simp only [h] at hend
  split at hend
  · rw [hend.2.1]
  · exact hend

/-- A result is published. -/
theorem published_of_ok {faults : Faults} {codec : Codec} {services : Services}
    {outputRoot : List FileName} {bytes : Bytes} {disk : FileTree} {result : RunResult}
    (h : (runOn codec services outputRoot bytes faults disk).outcome = .ok result) :
    ∃ d, Published codec (services.layout outputRoot) result d
      (runOn codec services outputRoot bytes faults disk).world := by
  have hend := triple_runExperiment_endsAtomically faults codec services outputRoot bytes disk
    ⟨disk, 0, []⟩ ⟨0, []⟩ ⟨rfl, rfl, rfl⟩
  unfold Ended.Meets at hend
  unfold runOn at h ⊢
  simp only [h] at hend
  exact hend

/-! ## What the exit code means -/

theorem errorExitCode_of_finalization {error : RunError}
    (h : error.isFinalizationFailure = true) :
    errorExitCode error = exitFinalizationFailure := by
  cases error with
  | allocated runId phase path source => rfl
  | _ => contradiction

theorem errorExitCode_ne {error : RunError} (h : error.isFinalizationFailure = false) :
    errorExitCode error ≠ exitFinalizationFailure := by
  unfold errorExitCode
  rw [h]
  split
  · decide
  · decide

/-- With 0, 3 and 4 there is a bundle in the final directory and no staging directory.  With 5
there is a staging directory, which the command has made and names on the error output, and
with 1 and 2 there is none that was not there before; the final directory is as it was. -/
theorem run_locates_evidence (codec : Codec) (surroundings : Surroundings)
    (experiment outputRoot : List FileName) (json : Bool) (disk : FileTree)
    (takes : Output → Nat → Bool) (code : UInt8) (ended : Process)
    (h : execute codec surroundings (.run experiment outputRoot json) (.facing takes disk) =
      some (code, ended)) :
    (code = exitSuccess ∨ code = exitInvalid ∨ code = exitOperationalFailure →
      (∃ d, ended.disk.lookup (surroundings.services.layout outputRoot).finalPath =
        some (.directory d)) ∧
      ended.disk.lookup (surroundings.services.layout outputRoot).staging = none) ∧
    (code = exitFinalizationFailure →
      disk.lookup (surroundings.services.layout outputRoot).staging = none ∧
      (∃ d, ended.disk.lookup (surroundings.services.layout outputRoot).staging =
        some (.directory d)) ∧
      ∃ phase source, ended.stderr = ["error: " ++
        (RunError.allocated (surroundings.services.layout outputRoot).runId.text phase
          (displayPath (surroundings.services.layout outputRoot).staging) source).text]) ∧
    (code = exitInternal ∨ code = exitRejected →
      ended.disk.lookup (surroundings.services.layout outputRoot).staging =
        disk.lookup (surroundings.services.layout outputRoot).staging) ∧
    (code = exitInternal ∨ code = exitRejected ∨ code = exitFinalizationFailure →
      ended.disk.lookup (surroundings.services.layout outputRoot).finalPath =
        disk.lookup (surroundings.services.layout outputRoot).finalPath) := by
  have hcommand : runCommand codec surroundings experiment outputRoot json (.facing takes disk) =
      some (code, ended) := h
  cases hcontent : contentAt surroundings experiment (Process.facing takes disk).disk with
  | error error =>
      -- nothing has been read, so nothing has been run
      rw [runCommand_of_unread hcontent] at hcommand
      obtain ⟨rfl, rfl⟩ := of_conclude_eq_some hcommand
      refine ⟨?_, ?_, fun _ => rfl, fun _ => rfl⟩
      · intro hcode
        rcases hcode with hcode | hcode | hcode <;> contradiction
      · intro hcode
        contradiction
  | ok bytes =>
      cases houtcome : (surroundings.run codec outputRoot bytes
          (Process.facing takes disk).disk).outcome with
      | panic => exact absurd houtcome runOn_ne_panic
      | ok result =>
          -- a result has been published, and its code is none of the others
          obtain ⟨line, rest, hrun⟩ := @runCommand_of_result codec surroundings experiment
            outputRoot json disk bytes result hcontent houtcome
          rw [hrun _ rfl] at hcommand
          obtain ⟨rfl, rfl⟩ := of_conclude_eq_some hcommand
          obtain ⟨d, hpublished⟩ := published_of_ok houtcome
          have hcode := resultExitCode_of_terminal (gives_runExperiment _ _ _ _ houtcome)
          refine ⟨fun _ => ⟨⟨d, hpublished.moved⟩, hpublished.gone⟩, ?_, ?_, ?_⟩
          · intro hsame
            rw [hsame] at hcode
            rcases hcode with hcode | hcode | hcode <;> contradiction
          · intro hsame
            rcases hsame with hsame | hsame
            all_goals
              rw [hsame] at hcode
              rcases hcode with hcode | hcode | hcode <;> contradiction
          · intro hsame
            rcases hsame with hsame | hsame | hsame
            all_goals
              rw [hsame] at hcode
              rcases hcode with hcode | hcode | hcode <;> contradiction
      | error error =>
          -- the error says whether the run has been allocated
          rw [runCommand_of_error hcontent houtcome] at hcommand
          obtain ⟨rfl, rfl⟩ := of_conclude_eq_some hcommand
          have hfinal := finalPath_of_error houtcome
          have hcode := errorExitCode_eq error
          refine ⟨?_, ?_, ?_, fun _ => hfinal⟩
          · intro hsame
            rcases hsame with hsame | hsame | hsame
            all_goals
              rw [hsame] at hcode
              rcases hcode with hcode | hcode | hcode <;> contradiction
          · intro hsame
            rcases (stopped_runOn houtcome).staging with
              ⟨-, ⟨phase, source, rfl⟩, hnew, hd⟩ | ⟨hearly, -⟩
            · exact ⟨hnew, hd, phase, source, rfl⟩
            · exact absurd hsame (errorExitCode_ne hearly)
          · intro hsame
            rcases (stopped_runOn houtcome).staging with ⟨hlate, -, -, -⟩ | ⟨-, hkept⟩
            · rw [errorExitCode_of_finalization hlate] at hsame
              rcases hsame with hsame | hsame <;> contradiction
            · exact hkept

/-- The sample run leaves its bundle in the final directory. -/
theorem run_locates_evidence_sample : ∃ code ended,
    execute SampleRun.readingCodec SampleRun.surroundings (.run [SampleRun.requestName] [] true)
        (.start SampleRun.request) = some (code, ended) ∧
    (∃ d, ended.disk.lookup (SampleRun.services.layout []).finalPath = some (.directory d)) ∧
      ended.disk.lookup (SampleRun.services.layout []).staging = none := by
  obtain ⟨code, ended, hrun, hcode⟩ := SampleRun.exists_run
  exact ⟨code, ended, hrun, (run_locates_evidence _ _ _ _ _ _ _ _ _ hrun).1 hcode⟩

end Benchplane
