import Benchplane.Run.Phases

/-!
# What holds throughout a run

The run from its first operation: nothing of it shows before the allocation, and
from then on every moment is sound.  The results are about every run, every pattern
of failing operations and every moment.
-/

namespace Benchplane

open Library

/-- Where the first run of the services puts its files. -/
def Services.layout (services : Services) (outputRoot : List FileName) : Layout :=
  ⟨outputRoot, services.nextRunId 0⟩

/-! ## The allocation -/

/-- Only directories that may be there already have been made so far. -/
def Unallocated (past : Past) : Prop :=
  ∀ attempt ∈ past, ∃ operation, attempt.label = .change operation ∧
    (attempt.succeeded = true → ∀ path, operation ≠ .createDirectory path)

section

variable {layout : Layout} {past : Past}

theorem Unallocated.cons {attempt : Attempt FileTree Operation} {operation : FileOperation}
    (h : Unallocated past) (hlabel : attempt.label = .change operation)
    (hoperation : attempt.succeeded = true → ∀ path, operation ≠ .createDirectory path) :
    Unallocated (attempt :: past) := by
  intro other hother
  rcases List.mem_cons.mp hother with rfl | hmem
  · exact ⟨operation, hlabel, hoperation⟩
  · exact h other hmem

theorem Unallocated.not_allocated (h : Unallocated past) : ¬ Allocated layout past := by
  rintro ⟨attempt, hmem, hsucceeded, path, hlabel, -⟩
  obtain ⟨operation, hsame, hother⟩ := h attempt hmem
  exact hother hsucceeded path (Operation.change.inj (hsame.symm.trans hlabel))

/-- A past of plain file operations tells nothing about records. -/
theorem silent_of_changes (h : ∀ attempt ∈ past, ∃ operation, attempt.label = .change operation) :
    journaled layout past = [] ∧ latestRun? layout past = none ∧
      latestAttempt? layout past = none := by
  induction past with
  | nil => exact ⟨rfl, rfl, rfl⟩
  | cons attempt older ih =>
      obtain ⟨hjournal, hrun, hattempt⟩ := ih fun other hmem => h other (List.mem_cons_of_mem _ hmem)
      obtain ⟨operation, hlabel⟩ := h attempt List.mem_cons_self
      refine ⟨?_, ?_, ?_⟩
      · rw [journaled_of_quiet (Or.inr (by rw [hlabel]; rfl)), hjournal]
      · rw [latestRun?_of_quiet (Or.inr (by rw [hlabel]; rfl)), hrun]
      · rw [latestAttempt?_of_quiet (by rw [hlabel]; rfl), hattempt]

/-- The run is coherent right behind its allocation. -/
theorem along_beginning {plan : ResolvedExperiment} {createdAt : String} {disk tree : FileTree}
    (hpast : Unallocated past)
    (happly : (FileOperation.createDirectory layout.staging).apply disk = .ok tree) :
    Along layout (Beginning layout (initialLocals plan layout.runId.text createdAt))
      ⟨tree, 0, ⟨.change (.createDirectory layout.staging), true, tree⟩ :: past⟩
      (initialLocals plan layout.runId.text createdAt) := by
  have hchanges : ∀ attempt ∈
      (⟨.change (.createDirectory layout.staging), true, tree⟩ :: past : Past),
      ∃ operation, attempt.label = .change operation := by
    intro attempt hmem
    rcases List.mem_cons.mp hmem with rfl | hold
    · exact ⟨_, rfl⟩
    · obtain ⟨operation, hlabel, -⟩ := hpast attempt hold
      exact ⟨operation, hlabel⟩
  have hearlier : ∀ earlier : Past, earlier <:+
      (⟨.change (.createDirectory layout.staging), true, tree⟩ :: past : Past) →
      journaled layout earlier = [] ∧ latestRun? layout earlier = none ∧
        latestAttempt? layout earlier = none := fun earlier hsuffix =>
    silent_of_changes fun attempt hmem => hchanges attempt (hsuffix.mem hmem)
  obtain ⟨hjournal, hrun, hattempt⟩ := hearlier _ List.suffix_rfl
  obtain ⟨-, hcreated⟩ := FileTree.lookup_createDirectory_self happly
  -- the staging directory is new, so it has no file of the run
  have hnone : ∀ file, tree.lookup (layout.path file) = none := by
    intro file
    rw [Layout.path, FileTree.lookup_append, hcreated]
    cases file <;> rfl
  have hjournalKept : JournalKept layout tree
      (⟨.change (.createDirectory layout.staging), true, tree⟩ :: past)
      (initialLocals plan layout.runId.text createdAt) :=
    ⟨Or.inl (hnone _), fun _ => by rw [hjournal]; exact IsJournal.nil,
      fun _ hne => absurd hjournal hne, fun _ => rfl⟩
  have hsnapshotKept : SnapshotKept layout tree
      (⟨.change (.createDirectory layout.staging), true, tree⟩ :: past)
      (initialLocals plan layout.runId.text createdAt) := by
    refine ⟨Or.inl (hnone _), ⟨Or.inr ⟨hjournal, rfl⟩, rfl⟩, RunState.Reaches.refl _, ?_, ?_⟩
    · intro earlier hsuffix record hrecord
      rw [(hearlier earlier hsuffix).2.1] at hrecord
      contradiction
    · intro record hrecord
      rw [hrun] at hrecord
      contradiction
  have hattemptKept : AttemptKept layout tree
      (⟨.change (.createDirectory layout.staging), true, tree⟩ :: past)
      (initialLocals plan layout.runId.text createdAt) := by
    refine ⟨Or.inl (hnone _), Or.inr ⟨hattempt, rfl⟩, ?_, ?_⟩
    · intro earlier hsuffix record hrecord
      rw [(hearlier earlier hsuffix).2.2] at hrecord
      contradiction
    · intro _ earlier hsuffix hlate
      rw [(hearlier earlier hsuffix).1] at hlate
      obtain ⟨event, hmem, -⟩ := hlate
      contradiction
  refine ⟨⟨⟨_, List.mem_cons_self, rfl, _, rfl, rfl⟩, hjournalKept, hsnapshotKept,
    hattemptKept, ?_⟩, hjournal, rfl⟩
  intro attempt older hsuffix hallocated
  -- before this operation nothing was allocated, so there was nothing to keep
  rcases List.suffix_cons_iff.mp hsuffix with hsame | hbefore
  · obtain ⟨rfl, rfl⟩ := List.cons.inj hsame
    exact sound_of_kept hjournalKept hsnapshotKept hattemptKept
  · refine absurd hallocated (Unallocated.not_allocated fun other hmem => ?_)
    exact hpast other (hbefore.mem hmem)

end

/-! ## Every run -/

/-- Every moment since the allocation is sound. -/
def SoundThroughout (layout : Layout) (w : DiskWorld) : Prop :=
  Throughout (fun disk past => Allocated layout past → Sound layout disk past) w.history

theorem Unallocated.soundThroughout {layout : Layout} {w : DiskWorld}
    (h : Unallocated w.history) : SoundThroughout layout w := by
  intro attempt older hsuffix hallocated
  exact absurd hallocated (Unallocated.not_allocated fun other hmem => h other (hsuffix.mem hmem))

section

variable {faults : Faults} {codec : Codec} {services : Services} {outputRoot : List FileName}
  {bytes : Bytes}

/-- How an error ends a run. -/
def EndsSoundly (layout : Layout) (error : RunError) (w : DiskWorld) (trace : RunTrace) : Prop :=
  SoundThroughout layout w ∧ error.isLifecycle = false ∧
    ∀ ignored ∈ trace.ignored, ignored.isLifecycle = false

theorem triple_createParent {layout : Layout} {path : List FileName} {idsDrawn : Nat} :
    Triple faults
      (fun w trace => Unallocated w.history ∧ trace = (⟨idsDrawn, []⟩ : RunTrace))
      (createDirectory path)
      (fun _ w trace => Unallocated w.history ∧ trace = (⟨idsDrawn, []⟩ : RunTrace))
      (EndsSoundly layout) := by
  refine Triple.forEach
    (fun _ _ w trace => Unallocated w.history ∧ trace = (⟨idsDrawn, []⟩ : RunTrace))
    fun done ancestor rest _ => ?_
  refine Disk.triple_performAs ?_ ?_
  · rintro w trace tree ⟨h, htrace⟩ -
    exact ⟨h.cons rfl (by simp), htrace⟩
  · rintro w trace e ⟨h, rfl⟩
    exact ⟨Unallocated.soundThroughout (h.cons rfl (by simp)), rfl, by simp⟩

theorem acceptRequest_eq_error {error : RunError} (h : acceptRequest codec services bytes = .error error) :
    error.isRequestRejection = true := by
  unfold acceptRequest at h
  cases hparse : parseExperiment codec bytes with
  | error e =>
      rw [hparse] at h
      exact (Except.error.inj h) ▸ rfl
  | ok experiment =>
      cases hresolve : resolveExperiment codec experiment with
      | error e =>
          rw [hparse] at h
          simp only [mapFailure, bind, Except.bind, hresolve, Except.error.injEq] at h
          exact h ▸ rfl
      | ok plan =>
          cases hkind : executionKind services.cudaPackageAvailable plan with
          | error e =>
              rw [hparse] at h
              simp only [mapFailure, bind, Except.bind, hresolve, hkind, Except.error.injEq] at h
              exact h ▸ rfl
          | ok kind =>
              rw [hparse] at h
              simp [mapFailure, bind, Except.bind, hresolve, hkind, pure, Except.pure] at h

theorem RunError.not_isLifecycle_of_rejection {error : RunError}
    (h : error.isRequestRejection = true) : error.isLifecycle = false := by
  cases error <;> simp_all [RunError.isRequestRejection, RunError.isLifecycle]

/-- An accepted request is one of the executable combinations. -/
theorem isExecutable_of_acceptRequest {plan : ResolvedExperiment} {kind : ExecutionKind}
    (h : acceptRequest codec services bytes = .ok (plan, kind)) : IsExecutable plan kind := by
  simp only [acceptRequest, bind_eq_ok_iff, mapFailure_eq_ok, pure_eq_ok_iff, Prod.mk.injEq] at h
  obtain ⟨experiment, -, plan', -, kind', hkind, rfl, rfl⟩ := h
  exact isExecutable_of_executionKind hkind

/-- A run does not panic, every moment of it is sound, and no error of it, reported or
ignored, comes from the lifecycle. -/
theorem triple_runExperiment :
    Triple faults (fun w trace => w.history = [] ∧ trace = (⟨0, []⟩ : RunTrace))
      (runExperiment codec services outputRoot bytes)
      (fun _ w trace => SoundThroughout (services.layout outputRoot) w ∧
        ∀ ignored ∈ trace.ignored, ignored.isLifecycle = false)
      (EndsSoundly (services.layout outputRoot)) := by
  unfold runExperiment
  refine Triple.via (fun request w trace => IsExecutable request.1 request.2 ∧
      Unallocated w.history ∧ trace = (⟨0, []⟩ : RunTrace)) (Triple.ofExcept ?_ ?_)
    fun request => ?_
  · rintro ⟨plan, kind⟩ haccept w trace ⟨hhistory, htrace⟩
    refine ⟨isExecutable_of_acceptRequest haccept, ?_, htrace⟩
    rw [hhistory]
    exact fun _ hmem => absurd hmem List.not_mem_nil
  · rintro error haccept w trace ⟨hhistory, rfl⟩
    refine ⟨?_, RunError.not_isLifecycle_of_rejection (acceptRequest_eq_error haccept), by simp⟩
    rw [SoundThroughout, hhistory]
    exact Throughout.nil
  obtain ⟨plan, kind⟩ := request
  unfold acceptedRun
  intro w trace ⟨hkind, hstart⟩
  refine (?_ : Triple faults (fun w trace => Unallocated w.history ∧
    trace = (⟨0, []⟩ : RunTrace)) _ _ _) w trace hstart
  refine Triple.via (fun runId w trace => runId = services.nextRunId 0 ∧
      Unallocated w.history ∧ trace = (⟨1, []⟩ : RunTrace)) ?_ fun runId => ?_
  · rintro w trace ⟨h, rfl⟩
    exact ⟨rfl, h, rfl⟩
  intro w trace ⟨hrunId, hstart⟩
  subst hrunId
  refine (?_ : Triple faults (fun w trace => Unallocated w.history ∧
    trace = (⟨1, []⟩ : RunTrace)) _ _ _) w trace hstart
  -- until the staging directory is created only parents are made
  refine Triple.andThen triple_createParent fun _ => ?_
  refine Triple.andThen triple_createParent fun _ => ?_
  refine Triple.via (fun _ w trace => trace = (⟨1, []⟩ : RunTrace) ∧ ∀ createdAt,
      Along (services.layout outputRoot) (Beginning (services.layout outputRoot)
        (initialLocals plan (services.layout outputRoot).runId.text createdAt)) w
        (initialLocals plan (services.layout outputRoot).runId.text createdAt)) ?_ fun _ => ?_
  · refine Disk.triple_performAs ?_ ?_
    · rintro w trace tree ⟨h, htrace⟩ happly
      exact ⟨htrace, fun createdAt => along_beginning h happly⟩
    · rintro w trace e ⟨h, rfl⟩
      exact ⟨Unallocated.soundThroughout (h.cons rfl (by simp)), rfl, by simp⟩
  refine Triple.via (fun _ w trace => trace = (⟨1, []⟩ : RunTrace) ∧
      ∀ createdAt, Along (services.layout outputRoot) (Beginning (services.layout outputRoot)
        (initialLocals plan (services.layout outputRoot).runId.text createdAt)) w
        (initialLocals plan (services.layout outputRoot).runId.text createdAt))
    (Triple.now fun w trace h => h) fun createdAt => ?_
  -- the run has locals of its own from here on
  refine Triple.nested fun trace => ?_
  refine (course_allocatedRun hkind).conseq ?_ ?_ ?_
  · rintro w own ⟨rfl, -, h⟩
    exact h createdAt
  · rintro _ w own ⟨hcoherent, -, hignored⟩
    exact ⟨hcoherent.moments, by simp [hignored]⟩
  · rintro error w own ⟨⟨hcoherent, -, hignored⟩, herror⟩
    exact ⟨hcoherent.moments, herror, hignored⟩

end

/-! ## A run on a failing disk -/

namespace SampleRun

def experiment : Experiment := .sample .localFake (.localFake 42 .success) "smoke"

def document : String :=
  "\n".intercalate ["apiVersion: benchplane/v1alpha1", "kind: Experiment", "metadata:",
    "  name: sample", "spec:", "  provider:", "    kind: localFake", "  runtime:",
    "    kind: localFake", "    seed: 42", "  workload:", "    profile: smoke", "    requests: 1",
    "  measurement:", "    warmupRuns: 0", "    repetitions: 1", "  budget:",
    "    maximumCostUsd: 0", "  lifecycle:", "    maximumRuntimeSeconds: 60"]

/-- The document is the only text it is asked for. -/
def codec : Codec := { Codec.refusing with experiment := fun _ => .ok experiment }

/-- A helper that is not installed. -/
def helper : HelperBehaviour := ⟨.error "No such file or directory", [], .running, .running, []⟩

def services : Services where
  clock _ := "2026-01-02T03:04:05.006Z"
  nextRunId _ := ⟨"run-018f6f9a-7b3c-7abc-8def-0123456789ab", by decide⟩
  cpuProbe := helper
  llamaCpp := helper
  llamaCppCuda := helper
  host := ⟨none, none, none, none, none, none, "linux", "x86_64", "0.1.0", none, none, none⟩
  cudaPackageAvailable := false

/-- The disk is full at one operation. -/
def failingAt (place : Nat) : Faults := fun n =>
  if n = place then some (.other "No space left on device") else none

def plan : ResolvedExperiment where
  apiVersion := Schema.apiVersion
  kind := "ResolvedExperiment"
  experiment := experiment
  experimentDigest := sha256Digest sha256 (toVec (experiment.toJson codec.formatFloat))
  resolvedPlanDigest := sha256Digest sha256 (toVec (resolvedPlanContent codec.formatFloat
    experiment (sha256Digest sha256 (toVec (experiment.toJson codec.formatFloat)))))

theorem resolved : resolveExperiment codec experiment = .ok plan := by
  have hvalid : experiment.validate = .ok () := rfl
  unfold resolveExperiment
  rw [hvalid]
  rfl

theorem accepted (text : String) :
    acceptRequest codec services (utf8 text) = .ok (plan, .localFake 42 .success) := by
  have hparsed : parseExperiment codec (utf8 text) = .ok experiment := by
    simp [parseExperiment, codec]
  unfold acceptRequest
  rw [hparsed]
  simp only [mapFailure, bind, Except.bind, resolved]
  rfl

/-- The past at the end of the run with one failing operation. -/
def past (place : Nat) : Past :=
  (acceptedRun codec services [] (utf8 document) plan (.localFake 42 .success) (failingAt place)
    ⟨.empty, 0, []⟩ ⟨0, []⟩).world.history

theorem history_runOn (place : Nat) :
    (runOn codec services [] (utf8 document) (failingAt place) .empty).world.history =
      past place := by
  rw [runOn_of_accepted (accepted document)]
  rfl

end SampleRun

/-! ## Every moment of every run -/

section

variable (faults : Faults) (codec : Codec) (services : Services) (outputRoot : List FileName)
  (bytes : Bytes)

theorem meets_runOn (disk : FileTree) :
    (runOn codec services outputRoot bytes faults disk).Meets
      (fun _ w trace => SoundThroughout (services.layout outputRoot) w ∧
        ∀ ignored ∈ trace.ignored, ignored.isLifecycle = false)
      (EndsSoundly (services.layout outputRoot)) :=
  triple_runExperiment ⟨disk, 0, []⟩ ⟨0, []⟩ ⟨rfl, rfl⟩

/-- Every moment of every run is sound. -/
theorem soundThroughout_runOn (disk : FileTree) :
    SoundThroughout (services.layout outputRoot)
      (runOn codec services outputRoot bytes faults disk).world := by
  have hend := meets_runOn faults codec services outputRoot bytes disk
  unfold Ended.Meets at hend
  split at hend
  · exact hend.1
  · exact hend.1
  · exact hend.elim

/-- The journal has no gap at any moment up to which no append to it went through behind
a failed one. -/
theorem journal_continuous (disk : FileTree) :
    Throughout (fun disk past => Allocated (services.layout outputRoot) past →
      AppendsOnlyWhile (services.layout outputRoot)
        (AllAppended (services.layout outputRoot)) past →
      JournalShown (services.layout outputRoot) disk past ∧
        IsJournal (journaled (services.layout outputRoot) past))
      (runOn codec services outputRoot bytes faults disk).world.history :=
  fun attempt older hsuffix hallocated hkept =>
    have hsound := soundThroughout_runOn faults codec services outputRoot bytes disk attempt older
      hsuffix hallocated
    ⟨hsound.shown, hsound.continuous hkept⟩

/-- When the append of the second event fails, the clean-up journals the third right behind
the first. -/
theorem journal_gap :
    ¬ Throughout (fun disk past => Allocated (SampleRun.services.layout []) past →
      JournalShown (SampleRun.services.layout []) disk past ∧
        IsJournal (journaled (SampleRun.services.layout []) past))
      (runOn SampleRun.codec SampleRun.services [] (utf8 SampleRun.document)
        (SampleRun.failingAt 21) .empty).world.history := by
  rw [SampleRun.history_runOn]
  intro hall
  have hallocated : Allocated (SampleRun.services.layout []) (SampleRun.past 21) := by
    exact of_decide_eq_true rfl
  have hsequences : (journaled (SampleRun.services.layout []) (SampleRun.past 21)).map
      (fun event => event.sequence.toNat) = [1, 3, 4] := rfl
  have hjournal := (hall.last hallocated.ne_nil hallocated).2
  -- the events themselves are not evaluated, only their numbers
  generalize journaled (SampleRun.services.layout []) (SampleRun.past 21) = events
    at hsequences hjournal
  have hlength : 1 < events.length := by
    have hlength := congrArg List.length hsequences
    simp only [List.length_map, List.length_cons, List.length_nil] at hlength
    omega
  have hsecond : (events.map fun event => event.sequence.toNat)[1]? = some 3 := by
    rw [hsequences]
    rfl
  rw [List.getElem?_map, List.getElem?_eq_getElem hlength, Option.map_some,
    hjournal.numbered 1 hlength] at hsecond
  contradiction

/-- The attempt is terminal before a late event is journaled, and does not change from
then on, in memory or on the disk, at any moment up to which no append to the journal went
through behind an operation that failed while the attempt was open. -/
theorem attempt_settled (disk : FileTree) :
    Throughout (fun disk past => Allocated (services.layout outputRoot) past →
      AppendsOnlyWhile (services.layout outputRoot)
        (fun older => ¬ EarlyFailure (services.layout outputRoot) older) past →
      JournalShown (services.layout outputRoot) disk past ∧
        AttemptShown (services.layout outputRoot) disk past ∧
        AttemptSettled (services.layout outputRoot) past)
      (runOn codec services outputRoot bytes faults disk).world.history :=
  fun attempt older hsuffix hallocated hkept =>
    have hsound := soundThroughout_runOn faults codec services outputRoot bytes disk attempt older
      hsuffix hallocated
    ⟨hsound.shown, hsound.attemptShown, hsound.attempt hkept⟩

/-- When the run record of the prepared run cannot be written, the clean-up ends the run and
the attempt stays open. -/
theorem attempt_not_settled :
    ¬ Throughout (fun disk past => Allocated (SampleRun.services.layout []) past →
      JournalShown (SampleRun.services.layout []) disk past ∧
        AttemptSettled (SampleRun.services.layout []) past)
      (runOn SampleRun.codec SampleRun.services [] (utf8 SampleRun.document)
        (SampleRun.failingAt 22) .empty).world.history := by
  rw [SampleRun.history_runOn]
  intro hall
  have hallocated : Allocated (SampleRun.services.layout []) (SampleRun.past 22) := by
    exact of_decide_eq_true rfl
  have hopen : (latestAttempt? (SampleRun.services.layout []) (SampleRun.past 22)).map
      (fun record => record.status.isTerminal) = some false := rfl
  have hlate : HasLate (journaled (SampleRun.services.layout []) (SampleRun.past 22)) := by
    unfold HasLate
    exact of_decide_eq_true rfl
  obtain ⟨record, hterminal, hrecord, -⟩ :=
    (hall.last hallocated.ne_nil hallocated).2 _ List.suffix_rfl hlate
  simp [hrecord, hterminal] at hopen

/-- The snapshot of the run is never ahead of a journal that has begun, is completed when
it is terminal, and never goes back. -/
theorem snapshot_behind (disk : FileTree) :
    Throughout (fun disk past => Allocated (services.layout outputRoot) past →
      JournalShown (services.layout outputRoot) disk past ∧
        SnapshotBehind (services.layout outputRoot) disk past)
      (runOn codec services outputRoot bytes faults disk).world.history :=
  fun attempt older hsuffix hallocated =>
    have hsound := soundThroughout_runOn faults codec services outputRoot bytes disk attempt older
      hsuffix hallocated
    ⟨hsound.shown, hsound.snapshot⟩

/-- When the experiment cannot be staged, the clean-up writes the run record of a run
whose journal does not exist yet. -/
theorem snapshot_ahead :
    ¬ Throughout (fun disk past => Allocated (SampleRun.services.layout []) past →
      disk.lookup ((SampleRun.services.layout []).path .run) ≠ none →
        ∃ record, latestRun? (SampleRun.services.layout []) past = some record ∧
          ∃ event ∈ journaled (SampleRun.services.layout []) past,
            event.toState = record.runStatus)
      (runOn SampleRun.codec SampleRun.services [] (utf8 SampleRun.document)
        (SampleRun.failingAt 7) .empty).world.history := by
  rw [SampleRun.history_runOn]
  intro hall
  have hallocated : Allocated (SampleRun.services.layout []) (SampleRun.past 7) := by
    exact of_decide_eq_true rfl
  have hshown : ((SampleRun.past 7).head?.bind fun attempt =>
      attempt.after.lookup ((SampleRun.services.layout []).path .run)).isSome = true := by
    rfl
  have hnothing : journaled (SampleRun.services.layout []) (SampleRun.past 7) = [] :=
    List.eq_nil_of_length_eq_zero rfl
  rw [List.head?_eq_some_head hallocated.ne_nil] at hshown
  obtain ⟨record, -, event, hmem, -⟩ :=
    hall.last hallocated.ne_nil hallocated (Option.isSome_iff_ne_none.mp hshown)
  rw [hnothing] at hmem
  exact List.not_mem_nil hmem

/-- A run neither panics nor asks for a transition that is not allowed. -/
theorem run_never_panics (disk : FileTree) :
    let ended := runOn codec services outputRoot bytes faults disk
    ended.outcome ≠ .panic ∧
      (∀ error, ended.outcome = .error error → error.isLifecycle = false) ∧
      ∀ ignored ∈ ended.locals.ignored, ignored.isLifecycle = false := by
  intro ended
  have hend := meets_runOn faults codec services outputRoot bytes disk
  change ended.Meets _ _ at hend
  unfold Ended.Meets at hend
  cases houtcome : ended.outcome with
  | ok value =>
      rw [houtcome] at hend
      exact ⟨by simp, by simp, hend.2⟩
  | error failure =>
      rw [houtcome] at hend
      exact ⟨by simp, by simpa using hend.2.1, hend.2.2⟩
  | panic =>
      rw [houtcome] at hend
      exact hend.elim

end

end Benchplane
