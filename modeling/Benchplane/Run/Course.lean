import Benchplane.Run.Steps

/-!
# The course of a run

The phases of an allocated run one after the other, and the clean-up behind a
failure.  A run is in a known state of its lifecycle at each phase, so every
transition it asks for is allowed and nothing it expects is missing.
-/

namespace Benchplane

open Library

/-! ## Transitions -/

/-- A condition that only depends on the attempt record and the ignored errors, and that
every attempt keeps. -/
structure Steady (R : Past → RunLocals → Prop) : Prop where
  grows : ∀ attempt past v, R past v → R (attempt :: past) v
  frame : ∀ past v v', R past v → v'.attemptRecord = v.attemptRecord → v'.ignored = v.ignored →
    R past v'

/-- The lifecycle is in a state and the journal has begun. -/
def At (layout : Layout) (state : RunState) (R : Past → RunLocals → Prop) (past : Past)
    (v : RunLocals) : Prop :=
  journaled layout past ≠ [] ∧ v.lifecycle.state = state ∧ R past v

theorem quietly_at {layout : Layout} {state : RunState} {R : Past → RunLocals → Prop}
    (hR : Steady R) : Quietly layout (At layout state R) := by
  rintro attempt past v ⟨hne, hstate, h⟩ hquiet
  exact ⟨by rwa [journaled_of_quiet hquiet], hstate, hR.grows attempt past v h⟩

namespace Coherent

variable {layout : Layout} {disk tree : FileTree} {past : Past} {v : RunLocals}
  {lifecycle : Lifecycle} {event : LifecycleEvent} {target : RunState} {recordedAt : String}
  {failure : Option FailureRecord}

/-- A change of the locals that the records do not show. -/
theorem of_locals {v' : RunLocals} (h : Coherent layout disk past v)
    (hlifecycle : v'.lifecycle = v.lifecycle) (hrun : v'.runRecord = v.runRecord)
    (hattempt : v'.attemptRecord = v.attemptRecord) : Coherent layout disk past v' where
  allocated := h.allocated
  journal := h.journal.of_lifecycle hlifecycle
  snapshot := h.snapshot.annotated hlifecycle (by rw [hrun]) (by rw [hrun])
  attempt := h.attempt.of_attemptRecord hattempt
  moments := h.moments

/-- The event of a transition has been appended. -/
theorem appended (h : Coherent layout disk past v) (hne : journaled layout past ≠ [])
    (hstep : v.lifecycle.transition target recordedAt failure = .ok (event, lifecycle))
    (hlate : target.isLate = true →
      v.attemptRecord.status.isTerminal = true ∨ EarlyFailure layout past)
    (happly : (FileOperation.append (layout.path .events) (jsonLine event.toJson)).apply disk =
      .ok tree) :
    Coherent layout tree
      (⟨.appendRecord (layout.path .events) (.event event), true, tree⟩ :: past)
      { v with lifecycle := lifecycle } := by
  have hevent : (Operation.appendRecord (layout.path .events) (.event event)).event? layout =
      some event := by simp [Operation.event?]
  obtain ⟨hvalid, htarget, -, hstate⟩ := Lifecycle.transition_eq_ok hstep
  obtain ⟨content, hcontent, hafter⟩ := FileTree.lookup_append_self happly
  -- the file grows by the line of the event
  have hshown : JournalShown layout tree
      (⟨.appendRecord (layout.path .events) (.event event), true, tree⟩ :: past) := by
    refine Or.inr ?_
    rw [journaled_of_append rfl hevent]
    rcases h.journal.shown with hnone | hshown
    · rw [hnone] at hcontent
      contradiction
    · obtain rfl : journalBytes (journaled layout past) = content := by
        have hboth := hshown.symm.trans hcontent
        simpa using hboth
      rw [hafter]
      simp [journalBytes]
  have hothers : ∀ file, .events ≠ file →
      tree.lookup (layout.path file) = disk.lookup (layout.path file) :=
    fun _ => lookup_others happly rfl
  refine h.extend ⟨_, true, tree⟩
    (h.journal.appended hne hstep rfl hevent hshown) ?_ ?_
  · refine (h.snapshot.step ⟨_, true, tree⟩ (Or.inr rfl) (hothers .run (by simp)) ?_).advanced
      rfl ?_
    · intro record hcovered
      rw [journaled_of_append rfl hevent]
      exact hcovered.append fun hnil => absurd hnil hne
    · exact hstate ▸ h.snapshot.ahead.step hvalid
  · have hkept : AttemptShown layout tree
        (⟨.appendRecord (layout.path .events) (.event event), true, tree⟩ :: past) :=
      AttemptKept.shown_silent h.attempt.shown ⟨_, true, tree⟩ rfl (Or.inr rfl) (hothers .attempt (by simp))
    -- a late event is in the journal only behind an ended attempt, or a failure before it
    refine (h.attempt.step ⟨_, true, tree⟩ rfl hkept ?_).of_attemptRecord rfl
    rw [journaled_of_append rfl hevent]
    rintro ⟨other, hmem, hother⟩
    rcases List.mem_append.mp hmem with hold | hnew
    · exact Or.inl ⟨other, hold, hother⟩
    · obtain rfl := List.mem_singleton.mp hnew
      rcases hlate (htarget ▸ hother) with hended | hearly
      · exact Or.inr (Or.inl (h.attempt.attemptEnded hended))
      · exact Or.inr (Or.inr ⟨by simp [IsAppend, hevent], rfl, hearly⟩)

/-- The append of the event of a transition has failed. -/
theorem missed (h : Coherent layout disk past v) (hne : journaled layout past ≠ [])
    (hstep : v.lifecycle.transition target recordedAt failure = .ok (event, lifecycle)) :
    Coherent layout disk
      (⟨.appendRecord (layout.path .events) (.event event), false, disk⟩ :: past)
      { v with lifecycle := lifecycle } := by
  obtain ⟨hvalid, -, -, hstate⟩ := Lifecycle.transition_eq_ok hstep
  refine h.extend ⟨_, false, disk⟩
    (h.journal.missed hne rfl (by simp [Operation.event?]; rfl) rfl) ?_
    ((h.attempt.quiet ⟨_, false, disk⟩ rfl (Or.inl rfl) rfl (Or.inl rfl)).of_attemptRecord rfl)
  refine (h.snapshot.quiet ⟨_, false, disk⟩ (Or.inl rfl) (Or.inl rfl) rfl).advanced
    rfl ?_
  exact hstate ▸ h.snapshot.ahead.step hvalid

/-- The run record catches up with a journaled transition. -/
theorem caughtUp (h : Coherent layout disk past v) (hstate : v.lifecycle.state = target)
    (hevent : ∃ event ∈ journaled layout past, event.toState = target)
    (hopen : v.runRecord.runStatus.isTerminal = false) :
    Coherent layout disk past
      { v with runRecord := v.runRecord.advance target recordedAt failure } where
  allocated := h.allocated
  journal := h.journal.of_lifecycle rfl
  snapshot := by
    refine h.snapshot.caughtUp rfl hstate.symm ⟨Or.inl hevent, ?_⟩
    have hcompleted := h.snapshot.covered.2
    rw [hopen] at hcompleted
    cases hterminal : target.isTerminal <;> simp [RunRecord.advance, hterminal, hcompleted]
  attempt := h.attempt.of_attemptRecord rfl
  moments := h.moments

end Coherent

section

variable {faults : Faults} {codec : Codec} {services : Services} {layout : Layout}

theorem keeps_appendJsonLine {ρ : Type} {formatFloat : FormatFloat} {path : List FileName}
    {record : Record} {inv : DiskWorld → ρ → Prop} (hinv : ∀ v, Respects [path] fun w => inv w v) :
    Keeps faults inv (appendJsonLine formatFloat path record : DiskProgram ρ RunError Unit) :=
  Disk.keeps_performAs hinv rfl (by simp [FileOperation.scope])

/-- An allowed transition keeps the run coherent and leaves the lifecycle in its target,
whether its writes go through or not. -/
theorem triple_persistRunTransition {R : Past → RunLocals → Prop} {source target : RunState}
    {failure : Option FailureRecord} (hR : Steady R)
    (hvalid : isValidTransition source target = true)
    (hlate : target.isLate = true → ∀ past v, R past v →
      v.attemptRecord.status.isTerminal = true ∨ EarlyFailure layout past) :
    Triple faults (Along layout (At layout source R))
      (persistRunTransition codec services layout target failure)
      (fun _ => Along layout (At layout target R))
      (fun error w v => Along layout (At layout target R) w v ∧ Stopped error w) := by
  unfold persistRunTransition
  refine Triple.via (fun _ => Along layout (At layout source R))
    (Triple.now fun w v h => h) fun recordedAt => ?_
  refine Triple.andThen Triple.getValue fun locals => ?_
  refine Triple.via (fun step w v => Along layout (At layout source R) w v ∧
      v.lifecycle.transition target recordedAt failure = .ok step) ?_ fun step => ?_
  · refine Triple.ofExcept ?_ ?_
    · rintro step hstep w v ⟨rfl, h⟩
      exact ⟨h, mapFailure_eq_ok.mp hstep⟩
    · rintro error herror w v ⟨rfl, h⟩
      have hstate : v.lifecycle.state = source := h.2.2.1
      obtain ⟨event, lifecycle, hstep⟩ :=
        Lifecycle.exists_transition (hstate ▸ hvalid) recordedAt failure
      simp [hstep, mapFailure] at herror
  obtain ⟨event, lifecycle⟩ := step
  refine Triple.via (fun _ w v => ∃ old, v = { old with lifecycle := lifecycle } ∧
      Along layout (At layout source R) w old ∧
      old.lifecycle.transition target recordedAt failure = .ok (event, lifecycle))
    (Triple.modify fun w v h => ⟨v, rfl, h⟩) fun _ => ?_
  refine Triple.via (fun _ w v => Along layout (At layout target R) w v ∧
      (∃ event ∈ journaled layout w.history, event.toState = target) ∧
      v.runRecord.runStatus.isTerminal = false) ?_ fun _ => ?_
  · refine Disk.triple_performAs ?_ ?_
    · rintro w _ tree ⟨old, rfl, ⟨h, hne, hstate, hside⟩, hstep⟩ happly
      obtain ⟨-, htarget, -, hnext⟩ := Lifecycle.transition_eq_ok hstep
      have hjournal : journaled layout
          (⟨.appendRecord (layout.path .events) (.event event), true, tree⟩ :: w.history) =
          journaled layout w.history ++ [event] :=
        journaled_of_append rfl (by simp [Operation.event?])
      refine ⟨⟨h.appended hne hstep (fun htargetLate => hlate htargetLate _ _ hside) happly,
        by simp [hjournal], hnext, hR.grows _ _ _ (hR.frame _ _ _ hside rfl rfl)⟩,
        ⟨event, by simp [hjournal], htarget⟩, ?_⟩
      -- a terminal run record would leave the lifecycle in the same terminal state
      by_contra hterminal
      rw [Bool.not_eq_false] at hterminal
      have hsame := h.snapshot.ahead.eq_of_terminal hterminal
      rw [hstate] at hsame
      rw [← hsame] at hterminal
      cases source <;> simp_all [RunState.isTerminal, isValidTransition]
    · rintro w _ e ⟨old, rfl, ⟨h, hne, hstate, hside⟩, hstep⟩
      obtain ⟨-, -, -, hnext⟩ := Lifecycle.transition_eq_ok hstep
      refine ⟨⟨h.missed hne hstep, ?_, hnext, hR.grows _ _ _ (hR.frame _ _ _ hside rfl rfl)⟩,
        rfl, _, _, rfl, rfl⟩
      rwa [journaled_of_quiet (Or.inl rfl)]
  refine Triple.via (fun _ => Along layout (At layout target R)) (Triple.modify ?_) fun _ => ?_
  · rintro w v ⟨⟨h, hne, hstate, hside⟩, hevent, hopen⟩
    exact ⟨h.caughtUp hstate hevent hopen, hne, hstate, hR.frame _ _ _ hside rfl rfl⟩
  · refine Triple.stops (keeps_writeRunRecord (quietly_at hR)) ?_
    exact Stops.andThen Stops.get fun _ => Stops.writeJsonAtomic

/-- A change of the status of an attempt that is not over. -/
theorem triple_persistAttemptStatus {R R' : Past → RunLocals → Prop} {state : RunState}
    {status : AttemptStatus} {failure : Option FailureRecord} (hR' : Steady R')
    (hopen : ∀ past v, R past v → v.attemptRecord.status.isTerminal = false)
    (hnext : ∀ past v recordedAt, R past v → R' past
      { v with attemptRecord := v.attemptRecord.advance status recordedAt failure }) :
    Triple faults (Along layout (At layout state R))
      (persistAttemptStatus codec services layout status failure)
      (fun _ => Along layout (At layout state R'))
      (fun error w v => Along layout (At layout state R') w v ∧ Stopped error w) := by
  unfold persistAttemptStatus
  refine Triple.via (fun _ => Along layout (At layout state R))
    (Triple.now fun w v h => h) fun recordedAt => ?_
  refine Triple.via (fun _ => Replaced layout (At layout state R')) (Triple.modify ?_)
    fun _ => ?_
  · rintro w v ⟨h, hne, hstate, hside⟩
    exact ⟨v.attemptRecord, h, Or.inr (hopen _ _ hside), hne, hstate, hnext _ _ _ hside⟩
  · refine Triple.stops (triple_writeAttemptRecord (quietly_at hR')) ?_
    exact Stops.andThen Stops.get fun _ => Stops.writeJsonAtomic

end

/-! ## The clean-up -/

/-- The attempt has ended, or an operation failed while it was open; and no ignored error
comes from the lifecycle. -/
def Excusable (layout : Layout) (past : Past) (v : RunLocals) : Prop :=
  (v.attemptRecord.status.isTerminal = true ∨ EarlyFailure layout past) ∧
    ∀ error ∈ v.ignored, error.isLifecycle = false

theorem steady_excusable (layout : Layout) : Steady (Excusable layout) where
  grows _ _ _ h := ⟨h.1.imp_right EarlyFailure.cons, h.2⟩
  frame _ _ _ h hattempt hignored := by
    unfold Excusable
    rw [hattempt, hignored]
    exact h

/-- Outside of the initial state the journal has begun. -/
theorem Along.at {layout : Layout} {R : Past → RunLocals → Prop} {w : DiskWorld} {v : RunLocals}
    (h : Along layout R w v) (hne : v.lifecycle.state ≠ .created) :
    Along layout (At layout v.lifecycle.state R) w v :=
  ⟨h.1, fun hnil => hne (h.1.journal.opening hnil), rfl, h.2⟩

section

variable {faults : Faults} {codec : Codec} {services : Services} {layout : Layout}

/-- A failure on the disk can be ignored. -/
theorem triple_ignoring {ε : Type} {pre : DiskWorld → RunLocals → Prop}
    {failed : ε → DiskWorld → RunLocals → Prop} {p : DiskProgram RunLocals RunError Unit}
    (h : Triple faults pre p (fun _ => Along layout (Excusable layout))
      fun error w v => Along layout (Excusable layout) w v ∧ Stopped error w) :
    Triple faults pre (ignoring p) (fun _ => Along layout (Excusable layout)) failed := by
  refine Triple.recover h fun error => Triple.modify ?_
  rintro w v ⟨⟨hcoherent, hexcuse, hignored⟩, hstopped, -⟩
  refine ⟨hcoherent.of_locals rfl rfl rfl, hexcuse, fun other hother => ?_⟩
  rcases List.mem_cons.mp hother with rfl | hold
  · exact hstopped
  · exact hignored other hold

/-- The clean-up keeps the run coherent and only asks for allowed transitions. -/
theorem triple_persistAllocatedFailure {ε : Type} {phase message : String}
    {failed : ε → DiskWorld → RunLocals → Prop} :
    Triple faults (Along layout (Excusable layout))
      (persistAllocatedFailure codec services layout phase message)
      (fun _ => Along layout (Excusable layout)) failed := by
  have hsteady := steady_excusable layout
  have hdrop : ∀ state w v, Along layout (At layout state (Excusable layout)) w v →
      Along layout (Excusable layout) w v := fun _ _ _ h => ⟨h.1, h.2.2.2⟩
  have hquietly : Quietly layout (Excusable layout) := fun attempt past v h _ =>
    hsteady.grows attempt past v h
  unfold persistAllocatedFailure
  -- the first transition moves to `finalizing`, where that is allowed
  refine Triple.andThen Triple.getValue fun locals => ?_
  refine Triple.via (fun _ => Along layout (Excusable layout)) ?_ fun _ => ?_
  · refine Triple.when (fun hcondition => triple_ignoring ?_) fun _ w v h => h.2
    have hmem : locals.lifecycle.state ∈ [RunState.preparing, .running, .collecting] := by
      simpa using hcondition
    have hvalid : isValidTransition locals.lifecycle.state .finalizing = true := by
      generalize locals.lifecycle.state = state at hmem
      cases state <;> simp_all [isValidTransition]
    refine (triple_persistRunTransition hsteady hvalid fun _ _ _ h => h.1).conseq ?_ (fun _ => hdrop _) fun _ w v h => ⟨hdrop _ w v h.1, h.2⟩
    rintro w v ⟨rfl, h⟩
    exact h.at fun hcreated => by simp [hcreated] at hmem
  -- the second from there to `failed`
  refine Triple.andThen Triple.getValue fun locals => ?_
  refine Triple.via (fun _ => Along layout (Excusable layout)) ?_ fun _ => ?_
  · refine Triple.when (fun hcondition => triple_ignoring ?_) fun _ w v h => h.2
    have hstate : locals.lifecycle.state = .finalizing := by simpa using hcondition
    have hvalid : isValidTransition .finalizing .failed = true := rfl
    refine (triple_persistRunTransition hsteady hvalid fun _ _ _ h => h.1).conseq ?_ (fun _ => hdrop _) fun _ w v h => ⟨hdrop _ w v h.1, h.2⟩
    rintro w v ⟨rfl, h⟩
    exact hstate ▸ h.at (by simp [hstate])
  refine Triple.via (fun _ => Along layout (Excusable layout))
    (Triple.now fun w v h => h) fun updatedAt => ?_
  refine Triple.via (fun _ => Along layout (Excusable layout)) (Triple.modify ?_) fun _ => ?_
  · rintro w v ⟨h, hside⟩
    exact ⟨⟨h.allocated, h.journal.of_lifecycle rfl, h.snapshot.annotated rfl rfl rfl,
      h.attempt.of_attemptRecord rfl, h.moments⟩, hsteady.frame _ _ _ hside rfl rfl⟩
  -- both records are written whatever came of the transitions
  refine Triple.via (fun _ => Along layout (Excusable layout)) (triple_ignoring ?_) fun _ =>
    triple_ignoring ?_
  · exact Triple.stops (keeps_writeRunRecord hquietly)
      (Stops.andThen Stops.get fun _ => Stops.writeJsonAtomic)
  · exact Triple.stops ((triple_writeAttemptRecord hquietly).weaken fun _ _ => Along.replaced)
      (Stops.andThen Stops.get fun _ => Stops.writeJsonAtomic)

/-! ## One step of the course -/

/-- Nothing has been ignored, and the attempt has ended or not. -/
def Calm (ended : Bool) (_ : Past) (v : RunLocals) : Prop :=
  v.attemptRecord.status.isTerminal = ended ∧ v.ignored = []

theorem steady_calm (ended : Bool) : Steady (Calm ended) where
  grows _ _ _ h := h
  frame _ _ _ h hattempt hignored := ⟨hattempt ▸ h.1, hignored ▸ h.2⟩

/-- Where a failure leaves the run. -/
def Halted (layout : Layout) (error : RunError) (w : DiskWorld) (v : RunLocals) : Prop :=
  Along layout (Excusable layout) w v ∧ error.isLifecycle = false

/-- Where a failure of a phase leaves the run. -/
def Failed (layout : Layout) (failure : AllocatedFailure) : DiskWorld → RunLocals → Prop :=
  Halted layout failure.source

theorem Along.halted {Q : Past → RunLocals → Prop} {w : DiskWorld} {v : RunLocals}
    {error : RunError} (h : Along layout Q w v) (hcalm : v.ignored = [])
    (hstopped : Stopped error w) : Halted layout error w v := by
  obtain ⟨herror, attempt, older, hhistory, hfailed⟩ := hstopped
  refine ⟨⟨h.1, ?_, by simp [hcalm]⟩, herror⟩
  cases hended : v.attemptRecord.status.isTerminal with
  | true => exact Or.inl rfl
  | false =>
      have hcoherent := h.1
      rw [hhistory] at hcoherent ⊢
      exact Or.inr (hcoherent.earlyFailure hfailed hended)

/-- Once the attempt has ended every failure is excused. -/
theorem Along.excused {state : RunState} {w : DiskWorld} {v : RunLocals}
    (h : Along layout (At layout state (Calm true)) w v) : Along layout (Excusable layout) w v := by
  obtain ⟨hcoherent, -, -, hended, hignored⟩ := h
  exact ⟨hcoherent, Or.inl hended, by simp [hignored]⟩

/-- A step that keeps a side condition under which nothing has been ignored. -/
theorem course_quiet {α : Type} {Q : Past → RunLocals → Prop}
    {p : DiskProgram RunLocals RunError α} (hcalm : ∀ past v, Q past v → v.ignored = [])
    (hkeeps : Keeps faults (Along layout Q) p) (hstops : Stops faults p) :
    Triple faults (Along layout Q) p (fun _ => Along layout Q) (Halted layout) :=
  (Triple.stops hkeeps hstops).conseq (fun _ _ h => h) (fun _ _ _ h => h)
    fun _ _ _ h => h.1.halted (hcalm _ _ h.1.2) h.2

/-- A step behind the end of the attempt whose failures are those of the evidence. -/
theorem course_evidence {α : Type} {state : RunState} {p : DiskProgram RunLocals EvidenceError α}
    (hkeeps : Keeps faults (Along layout (At layout state (Calm true))) p) :
    Triple faults (Along layout (At layout state (Calm true))) (p.mapError .evidence)
      (fun _ => Along layout (At layout state (Calm true))) (Halted layout) :=
  Triple.mapError <| hkeeps.conseq (fun _ _ h => h) (fun _ _ _ h => h) fun _ _ _ h =>
    ⟨h.excused, rfl⟩

theorem course_transition {ended : Bool} {source target : RunState}
    {failure : Option FailureRecord} (hvalid : isValidTransition source target = true)
    (hlate : target.isLate = true → ended = true) :
    Triple faults (Along layout (At layout source (Calm ended)))
      (persistRunTransition codec services layout target failure)
      (fun _ => Along layout (At layout target (Calm ended))) (Halted layout) :=
  (triple_persistRunTransition (steady_calm ended) hvalid fun htarget _ _ h =>
    Or.inl (h.1.trans (hlate htarget))).conseq (fun _ _ h => h) (fun _ _ _ h => h)
    fun _ _ _ h => h.1.halted h.1.2.2.2.2 h.2

theorem course_attemptStatus {state : RunState} {status : AttemptStatus}
    {failure : Option FailureRecord} :
    Triple faults (Along layout (At layout state (Calm false)))
      (persistAttemptStatus codec services layout status failure)
      (fun _ => Along layout (At layout state (Calm status.isTerminal))) (Halted layout) :=
  (triple_persistAttemptStatus (steady_calm status.isTerminal) (fun _ _ h => h.1)
    fun _ _ _ h => ⟨rfl, h.2⟩).conseq (fun _ _ h => h) (fun _ _ _ h => h)
    fun _ _ _ h => h.1.halted h.1.2.2.2.2 h.2

theorem course_payload {Q : Past → RunLocals → Prop} {file : StagedFile} {record : Record}
    (hQ : Quietly layout Q) (hcalm : ∀ past v, Q past v → v.ignored = [])
    (hevents : file ≠ .events) (hrun : file ≠ .run) (hattempt : file ≠ .attempt) :
    Triple faults (Along layout Q) (writePayload codec.formatFloat layout file record)
      (fun _ => Along layout Q) (Halted layout) :=
  course_quiet hcalm
    (keeps_writeJsonAtomic fun _ => respects_along (aside_payload layout hevents hrun hattempt) hQ)
    Stops.writeJsonAtomic

end

end Benchplane
