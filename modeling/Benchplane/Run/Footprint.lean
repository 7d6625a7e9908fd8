import Benchplane.Library.TreeGrowth
import Benchplane.Run.StagedTree
import Mathlib.Logic.Relation

/-!
# The footprint of a run

A run is a machine that owns its staging directory from the moment it has made it until
it renames it.  Here the machine is stated on its own, as moves of the disk, and every
attempt of every run is shown to be one of its moves; what no move does, no run does,
wherever it fails or is killed.
-/

namespace Benchplane

open Library

/-! ## The machine -/

/-- How far a run has got with its directories. -/
inductive Stage where
  | opening
  | allocated
  | published

/-- Strictly inside the staging directory. -/
def Layout.Inside (layout : Layout) (path : List FileName) : Prop :=
  ∃ name rest, path = layout.staging ++ name :: rest

/-- What a run may do to the disk next. -/
inductive RunMove (layout : Layout) : Stage × FileTree → Stage × FileTree → Prop where
  /-- A directory on the way to the staging and final directories. -/
  | parent {path : List FileName} {tree tree' : FileTree}
      (hpath : path <+: layout.stagingParent ∨ path <+: layout.runsParent)
      (happly : (FileOperation.ensureDirectory path).apply tree = .ok tree') :
      RunMove layout (.opening, tree) (.opening, tree')
  /-- The staging directory, which must be new. -/
  | allocate {tree tree' : FileTree}
      (happly : (FileOperation.createDirectory layout.staging).apply tree = .ok tree') :
      RunMove layout (.opening, tree) (.allocated, tree')
  /-- A directory on the way to the attempt's. -/
  | ensure {path : List FileName} {tree tree' : FileTree}
      (hpath : path <+: layout.attemptDirectory)
      (happly : (FileOperation.ensureDirectory path).apply tree = .ok tree') :
      RunMove layout (.allocated, tree) (.allocated, tree')
  /-- Any change inside the staging directory. -/
  | work {op : FileOperation} {tree tree' : FileTree}
      (hscope : ∀ path ∈ op.scope, layout.Inside path) (happly : op.apply tree = .ok tree') :
      RunMove layout (.allocated, tree) (.allocated, tree')
  /-- The publication. -/
  | publish {tree tree' : FileTree}
      (happly : (FileOperation.rename layout.staging layout.finalPath).apply tree = .ok tree') :
      RunMove layout (.allocated, tree) (.published, tree')

/-- The states that the machine reaches from a disk. -/
def RunMoves (layout : Layout) (disk : FileTree) (stage : Stage) (tree : FileTree) : Prop :=
  Relation.ReflTransGen (RunMove layout) (.opening, disk) (stage, tree)

/-- The disk as it is, and as it was behind every attempt so far, is one that the machine
reaches. -/
structure Traced (layout : Layout) (disk : FileTree) (stage : Stage) (w : DiskWorld) : Prop where
  now : RunMoves layout disk stage w.store
  past : ∀ attempt ∈ w.history, ∃ earlier, RunMoves layout disk earlier attempt.after

namespace Traced

variable {layout : Layout} {disk : FileTree} {stage stage' : Stage} {w : DiskWorld}

/-- An attempt that goes through is a move. -/
theorem moved (h : Traced layout disk stage w) (label : Operation) {tree : FileTree}
    (hmove : RunMove layout (stage, w.store) (stage', tree)) :
    Traced layout disk stage'
      { w with store := tree, history := ⟨label, true, tree⟩ :: w.history } := by
  have hnow : RunMoves layout disk stage' tree := h.now.tail hmove
  refine ⟨hnow, ?_⟩
  intro attempt hattempt
  rcases List.mem_cons.mp hattempt with rfl | hbefore
  · exact ⟨stage', hnow⟩
  · exact h.past attempt hbefore

/-- An attempt that leaves the disk. -/
theorem stayed (h : Traced layout disk stage w) (label : Operation) (succeeded : Bool) :
    Traced layout disk stage
      { w with history := ⟨label, succeeded, w.store⟩ :: w.history } := by
  refine ⟨h.now, ?_⟩
  intro attempt hattempt
  rcases List.mem_cons.mp hattempt with rfl | hbefore
  · exact ⟨stage, h.now⟩
  · exact h.past attempt hbefore

/-- Reading the clock is no attempt. -/
theorem clock (h : Traced layout disk stage w) (n : Nat) :
    Traced layout disk stage { w with clockReadings := n } := ⟨h.now, h.past⟩

/-- The machine reaches every disk on the way. -/
theorem reached (h : Traced layout disk stage w) {tree : FileTree} (hpassed : w.Passed tree) :
    ∃ earlier, RunMoves layout disk earlier tree := by
  rcases hpassed with rfl | ⟨attempt, hattempt, rfl⟩
  · exact ⟨stage, h.now⟩
  · exact h.past attempt hattempt

end Traced

/-- Attempts inside the staging directory. -/
theorem respects_traced {layout : Layout} {disk : FileTree} {scope : List (List FileName)}
    (hscope : ∀ path ∈ scope, layout.Inside path) :
    Respects scope (Traced layout disk .allocated) where
  performed _ label _ _ h _ hpaths happly :=
    h.moved label (.work (fun path hpath => hscope path (hpaths path hpath)) happly)
  refused _ label h _ := h.stayed label false
  read _ path h := h.stayed (.read path) true
  clock _ n h := h.clock n

/-! ## Behind the run ID -/

/-- `run_experiment` from the parents of its directories on. -/
def openedRun (codec : Codec) (services : Services) (layout : Layout) (bytes : Bytes)
    (plan : ResolvedExperiment) (kind : ExecutionKind) :
    DiskProgram RunTrace RunError RunResult := do
  createDirectory layout.stagingParent
  createDirectory layout.runsParent
  createNewDirectory layout.staging
  let createdAt ← Program.now services.clock
  Program.nested (initialLocals plan layout.runId.text createdAt)
    (fun own trace => { trace with ignored := own.ignored })
    (allocatedRun codec services layout bytes plan kind
      (Lifecycle.new layout.runId.text createdAt 1).2)

/-- An accepted request draws one ID. -/
theorem runOn_opened {codec : Codec} {services : Services} {outputRoot : List FileName}
    {bytes : Bytes} {plan : ResolvedExperiment} {kind : ExecutionKind}
    (h : acceptRequest codec services bytes = .ok (plan, kind)) (faults : Faults)
    (disk : FileTree) :
    runOn codec services outputRoot bytes faults disk =
      openedRun codec services (services.layout outputRoot) bytes plan kind faults
        ⟨disk, 0, []⟩ ⟨1, []⟩ := by
  rw [runOn_of_accepted h]
  rfl

/-! ## Steps -/

namespace Layout

variable (layout : Layout)

theorem inside_path (file : StagedFile) : layout.Inside (layout.path file) := by
  unfold Inside path
  cases file <;> exact ⟨_, _, rfl⟩

theorem inside_temporary (file : StagedFile) : layout.Inside (layout.temporary file) := by
  unfold Inside temporary
  cases file <;> exact ⟨_, _, rfl⟩

end Layout

section

variable {ρ ε α : Type} {faults : Faults} {codec : Codec} {services : Services} {layout : Layout}
  {disk : FileTree} {bytes : Bytes} {plan : ResolvedExperiment}

/-- What a triple keeps, it keeps of the world alone. -/
theorem Leads.of_keeps {inv : DiskWorld → Prop} {p : DiskProgram ρ ε α}
    (h : Keeps faults (fun w (_ : ρ) => inv w) p) : Maintains faults inv p := by
  intro w v hw
  have hend := h w v hw
  unfold Ended.Meets at hend
  cases hout : (p faults w v).outcome with
  | ok value => simpa [hout, Outcome.isOk] using hend
  | error failure => simpa [hout, Outcome.isOk] using hend
  | panic => simp [hout] at hend

/-- An attempt that is a move when it goes through. -/
theorem leads_performAs {stage stage' : Stage} {label : Operation} {operation : FileOperation}
    {failure : IoError → ε}
    (hmove : ∀ tree tree', operation.apply tree = .ok tree' →
      RunMove layout (stage, tree) (stage', tree')) :
    Leads faults (Traced layout disk stage)
      (Disk.performAs label operation failure : DiskProgram ρ ε Unit)
      (Traced layout disk stage') (Traced layout disk stage) := by
  apply Leads.perform
  · intro w a tree h hop
    cases happly : operation.apply w.store with
    | error cause => simp [happly] at hop
    | ok tree' =>
        simp only [happly, Except.ok.injEq, Prod.mk.injEq, true_and] at hop
        subst hop
        exact h.moved label (hmove w.store tree' happly)
  · intro w h
    exact h.stayed label false

theorem maintains_read {stage : Stage} {path : List FileName} {failure : IoError → ε}
    {look : FileTree → Except ε α} :
    Maintains faults (Traced layout disk stage)
      (Disk.read path failure look : DiskProgram ρ ε α) := by
  apply Leads.perform
  · intro w a tree h hop
    cases hlook : look w.store with
    | error cause => simp [hlook] at hop
    | ok value =>
        simp only [hlook, Except.ok.injEq, Prod.mk.injEq] at hop
        obtain ⟨-, rfl⟩ := hop
        exact h.stayed (.read path) true
  · intro w h
    exact h.stayed (.read path) false

theorem maintains_now {stage : Stage} {clock : Nat → String} :
    Maintains faults (Traced layout disk stage) (Program.now clock : DiskProgram ρ ε String) :=
  Leads.now fun w h => h.clock (w.clockReadings + 1)

/-- `create_directory`, where making each of the directories is a move. -/
theorem maintains_createDirectory {stage : Stage} {path : List FileName}
    (hmove : ∀ ancestor tree tree', ancestor <+: path →
      (FileOperation.ensureDirectory ancestor).apply tree = .ok tree' →
      RunMove layout (stage, tree) (stage, tree')) :
    Maintains faults (Traced layout disk stage)
      (createDirectory path : DiskProgram ρ RunError Unit) := by
  apply Leads.forEach
  intro ancestor hancestor
  have hprefix : ancestor <+: path := (List.mem_inits _ _).mp (List.mem_of_mem_tail hancestor)
  exact leads_performAs fun tree tree' happly => hmove ancestor tree tree' hprefix happly

theorem maintains_writePayload {file : StagedFile} {record : Record} :
    Maintains faults (Traced layout disk .allocated)
      (writePayload codec.formatFloat layout file record : DiskProgram ρ RunError Unit) := by
  apply Leads.of_keeps
  apply keeps_writeJsonAtomic
  intro _
  apply respects_traced
  intro path hpath
  simp only [List.mem_cons, List.not_mem_nil, or_false] at hpath
  rcases hpath with rfl | rfl
  · exact layout.inside_temporary file
  · exact layout.inside_path file

/-- A change of a payload in place. -/
theorem maintains_payload {label : Operation} {operation : FileOperation}
    {failure : IoError → ε} {file : StagedFile} (hscope : operation.scope = [layout.path file]) :
    Maintains faults (Traced layout disk .allocated)
      (Disk.performAs label operation failure : DiskProgram ρ ε Unit) := by
  apply leads_performAs
  intro tree tree' happly
  refine .work (fun path hpath => ?_) happly
  rw [hscope] at hpath
  exact List.mem_singleton.mp hpath ▸ layout.inside_path file

theorem maintains_appendJsonLine {file : StagedFile} {record : Record} :
    Maintains faults (Traced layout disk .allocated)
      (appendJsonLine codec.formatFloat (layout.path file) record :
        DiskProgram ρ RunError Unit) :=
  maintains_payload rfl

theorem maintains_createEmptyFile {file : StagedFile} :
    Maintains faults (Traced layout disk .allocated)
      (createEmptyFile (layout.path file) : DiskProgram ρ RunError Unit) :=
  maintains_payload rfl

theorem maintains_writeRunRecord :
    Maintains faults (Traced layout disk .allocated) (writeRunRecord codec layout) :=
  Leads.andThen Leads.get fun _ => maintains_writePayload

theorem maintains_writeAttemptRecord :
    Maintains faults (Traced layout disk .allocated) (writeAttemptRecord codec layout) :=
  Leads.andThen Leads.get fun _ => maintains_writePayload

theorem maintains_persistRunTransition {target : RunState} {failure : Option FailureRecord} :
    Maintains faults (Traced layout disk .allocated)
      (persistRunTransition codec services layout target failure) := by
  apply Leads.andThen maintains_now
  intro recordedAt
  apply Leads.andThen Leads.get
  intro locals
  apply Leads.andThen (Leads.ofExcept fun _ h => h)
  intro step
  apply Leads.andThen Leads.modify
  intro _
  apply Leads.andThen maintains_appendJsonLine
  intro _
  exact Leads.andThen Leads.modify fun _ => maintains_writeRunRecord

theorem maintains_persistAttemptStatus {status : AttemptStatus}
    {failure : Option FailureRecord} :
    Maintains faults (Traced layout disk .allocated)
      (persistAttemptStatus codec services layout status failure) := by
  apply Leads.andThen maintains_now
  intro recordedAt
  exact Leads.andThen Leads.modify fun _ => maintains_writeAttemptRecord

theorem maintains_ignoring {p : DiskProgram RunLocals RunError Unit} {inv : DiskWorld → Prop}
    (hp : Maintains faults inv p) :
    Maintains faults inv (ignoring p : DiskProgram RunLocals ε Unit) :=
  Leads.recover hp fun _ => Leads.modify

theorem maintains_persistAllocatedFailure {phase message : String} :
    Maintains faults (Traced layout disk .allocated)
      (persistAllocatedFailure codec services layout phase message :
        DiskProgram RunLocals ε Unit) := by
  unfold persistAllocatedFailure
  simp only [Program.bind_eq_andThen]
  apply Leads.andThen Leads.get
  intro locals
  apply Leads.andThen (Leads.when (maintains_ignoring maintains_persistRunTransition))
  intro _
  apply Leads.andThen Leads.get
  intro locals
  apply Leads.andThen (Leads.when (maintains_ignoring maintains_persistRunTransition))
  intro _
  apply Leads.andThen maintains_now
  intro updatedAt
  apply Leads.andThen Leads.modify
  intro _
  apply Leads.andThen (maintains_ignoring maintains_writeRunRecord)
  intro _
  exact maintains_ignoring maintains_writeAttemptRecord

/-! ## Phases -/

theorem maintains_stageInitial {initialEvent : LifecycleEvent} :
    Maintains faults (Traced layout disk .allocated)
      (stageInitial codec layout bytes plan initialEvent) := by
  apply Leads.mapError
  apply Leads.andThen (maintains_createDirectory fun _ _ _ hpath happly => .ensure hpath happly)
  intro _
  apply Leads.andThen (Leads.andThen (maintains_payload rfl) fun _ => maintains_payload rfl)
  intro _
  apply Leads.andThen maintains_writePayload
  intro _
  apply Leads.andThen maintains_createEmptyFile
  intro _
  apply Leads.andThen maintains_appendJsonLine
  intro _
  apply Leads.andThen maintains_createEmptyFile
  intro _
  exact Leads.andThen maintains_writeRunRecord fun _ => maintains_writeAttemptRecord

theorem maintains_prepare :
    Maintains faults (Traced layout disk .allocated) (prepare codec services layout plan) := by
  apply Leads.mapError
  apply Leads.andThen maintains_persistRunTransition
  intro _
  apply Leads.andThen maintains_persistAttemptStatus
  intro _
  apply Leads.andThen (Leads.orPanic fun _ h => h)
  intro provenance
  exact Leads.andThen maintains_writePayload fun _ => Leads.ok provenance

theorem maintains_beginRunning :
    Maintains faults (Traced layout disk .allocated) (beginRunning codec services layout) := by
  apply Leads.mapError
  exact Leads.andThen maintains_persistRunTransition fun _ => maintains_persistAttemptStatus

variable {execution : ExecutionOutput}

theorem maintains_recordProvenance {provenance : AttemptProvenance} :
    Maintains faults (Traced layout disk .allocated)
      (recordProvenance codec layout provenance execution) := by
  unfold recordProvenance
  split
  · exact Leads.ok ()
  · apply Leads.mapError
    exact Leads.andThen (Leads.orPanic fun _ h => h) fun _ => maintains_writePayload

theorem maintains_endAttempt :
    Maintains faults (Traced layout disk .allocated)
      (endAttempt codec services layout execution) := by
  apply Leads.mapError
  exact Leads.andThen (Leads.orPanic fun _ h => h) fun _ => maintains_persistAttemptStatus

theorem maintains_recordResources :
    Maintains faults (Traced layout disk .allocated)
      (recordResources codec layout execution) := by
  unfold recordResources
  split
  · exact Leads.ok ()
  · exact Leads.mapError maintains_writePayload

theorem maintains_recordMeasurements :
    Maintains faults (Traced layout disk .allocated)
      (recordMeasurements codec layout execution) := by
  apply Leads.mapError
  exact Leads.forEach fun _ _ => maintains_appendJsonLine

theorem maintains_collect :
    Maintains faults (Traced layout disk .allocated) (collect codec services layout execution) := by
  apply Leads.mapError
  exact Leads.when maintains_persistRunTransition

theorem maintains_finalize {validity : ValidityResult} {summary : RunSummary} :
    Maintains faults (Traced layout disk .allocated)
      (finalize codec services layout plan execution validity summary) := by
  apply Leads.mapError
  apply Leads.andThen maintains_persistRunTransition
  intro _
  apply Leads.andThen maintains_persistRunTransition
  intro _
  apply Leads.andThen maintains_writePayload
  intro _
  apply Leads.andThen maintains_writePayload
  intro _
  exact maintains_writePayload

theorem maintains_writeInventory :
    Maintains faults (Traced layout disk .allocated) (writeInventory codec layout) := by
  apply Leads.mapError
  apply Leads.mapError
  apply Leads.of_keeps
  apply keeps_writeChecksumFile
  intro _
  apply respects_traced
  intro path hpath
  simp only [List.mem_cons, List.not_mem_nil, or_false] at hpath
  rcases hpath with rfl | rfl
  · exact ⟨_, _, rfl⟩
  · exact ⟨_, _, rfl⟩

theorem maintains_verify :
    Maintains faults (Traced layout disk .allocated) (verify codec layout) := by
  apply Leads.mapError
  exact Leads.andThen (Leads.mapError maintains_read) fun _ => Leads.ok ()

/-- Only the rename publishes. -/
theorem leads_publish :
    Leads faults (Traced layout disk .allocated) (publish layout)
      (Traced layout disk .published) (Traced layout disk .allocated) := by
  apply Leads.mapError
  have hexists : Maintains faults (Traced layout disk .allocated)
      (Disk.pathExists layout.finalPath : DiskProgram RunLocals RunError Bool) :=
    Leads.recover maintains_read fun _ => Leads.ok false
  apply Leads.andThen hexists
  intro conflict
  apply Leads.andThen (Leads.when (Leads.fail _))
  intro _
  exact leads_performAs fun _ _ happly => .publish happly

theorem leads_attemptRun {kind : ExecutionKind} {initialEvent : LifecycleEvent} :
    Leads faults (Traced layout disk .allocated)
      (attemptRun codec services layout bytes plan kind initialEvent)
      (Traced layout disk .published) (Traced layout disk .allocated) := by
  apply Leads.andThen maintains_stageInitial
  intro _
  apply Leads.andThen maintains_prepare
  intro provenance
  apply Leads.andThen maintains_beginRunning
  intro _
  apply Leads.andThen maintains_recordProvenance
  intro _
  apply Leads.andThen maintains_endAttempt
  intro _
  apply Leads.andThen maintains_recordResources
  intro _
  apply Leads.andThen maintains_recordMeasurements
  intro _
  apply Leads.andThen maintains_collect
  intro _
  apply Leads.andThen (Leads.orPanic fun _ h => h)
  intro validity
  apply Leads.andThen maintains_finalize
  intro _
  apply Leads.andThen maintains_writeInventory
  intro pending
  apply Leads.andThen maintains_verify
  intro _
  -- only the publication moves the run on; every other step keeps to its staging directory
  exact Leads.andThen leads_publish fun _ => Leads.ok _

/-- The clean-up stays inside the staging directory. -/
theorem leads_allocatedRun {kind : ExecutionKind} {initialEvent : LifecycleEvent} :
    Leads faults (Traced layout disk .allocated)
      (allocatedRun codec services layout bytes plan kind initialEvent)
      (Traced layout disk .published) (Traced layout disk .allocated) := by
  apply Leads.recover leads_attemptRun
  intro failure
  exact Leads.andThen maintains_persistAllocatedFailure fun _ => Leads.fail _

/-- Making the parents of the two directories. -/
theorem maintains_createParent {path : List FileName}
    (hpath : path = layout.stagingParent ∨ path = layout.runsParent) :
    Maintains faults (Traced layout disk .opening)
      (createDirectory path : DiskProgram ρ RunError Unit) := by
  apply maintains_createDirectory
  intro ancestor tree tree' hancestor happly
  refine .parent ?_ happly
  rcases hpath with rfl | rfl
  · exact Or.inl hancestor
  · exact Or.inr hancestor

/-- Making the staging directory is what allocates the run. -/
theorem leads_allocate :
    Leads faults (Traced layout disk .opening)
      (createNewDirectory layout.staging : DiskProgram ρ RunError Unit)
      (Traced layout disk .allocated) (Traced layout disk .opening) :=
  leads_performAs fun _ _ happly => .allocate happly

theorem leads_openedRun {kind : ExecutionKind} :
    Leads faults (Traced layout disk .opening)
      (openedRun codec services layout bytes plan kind)
      (Traced layout disk .published) (fun w => ∃ stage, Traced layout disk stage w) := by
  have hstopped : ∀ stage w, Traced layout disk stage w → ∃ stage, Traced layout disk stage w :=
    fun stage _ h => ⟨stage, h⟩
  have hparents : ∀ path, path = layout.stagingParent ∨ path = layout.runsParent →
      Leads faults (Traced layout disk .opening)
        (createDirectory path : DiskProgram RunTrace RunError Unit)
        (Traced layout disk .opening) (fun w => ∃ stage, Traced layout disk stage w) :=
    fun path hpath => Leads.conseq (maintains_createParent hpath) (fun _ h => h) (fun _ h => h)
      (hstopped _)
  apply Leads.andThen (hparents _ (Or.inl rfl))
  intro _
  apply Leads.andThen (hparents _ (Or.inr rfl))
  intro _
  apply Leads.andThen (leads_allocate.conseq (fun _ h => h) (fun _ h => h) (hstopped _))
  intro _
  apply Leads.andThen (Leads.now fun w h => h.clock _)
  intro createdAt
  exact (Leads.nested leads_allocatedRun).conseq (fun _ h => h) (fun _ h => h) (hstopped _)

end

/-- Every attempt of every run is a move of the machine. -/
theorem traced_runOn (faults : Faults) (codec : Codec) (services : Services)
    (outputRoot : List FileName) (bytes : Bytes) (disk : FileTree) :
    ∃ stage, Traced (services.layout outputRoot) disk stage
      (runOn codec services outputRoot bytes faults disk).world := by
  have hstart : Traced (services.layout outputRoot) disk .opening ⟨disk, 0, []⟩ :=
    ⟨Relation.ReflTransGen.refl, fun _ h => absurd h List.not_mem_nil⟩
  cases haccept : acceptRequest codec services bytes with
  | error error =>
      refine ⟨.opening, ?_⟩
      rw [runOn_of_rejected haccept]
      exact hstart
  | ok request =>
      obtain ⟨plan, kind⟩ := request
      rw [runOn_opened haccept]
      exact leads_openedRun.world hstart ⟨1, []⟩ (fun _ h => ⟨_, h⟩) (fun _ h => h)

/-! ## What no move does -/

section

variable {layout : Layout} {disk : FileTree} {stage : Stage} {tree : FileTree}

/-- The disk has grown, and an allocated staging directory is a new one. -/
def Owned (layout : Layout) (disk : FileTree) : Stage × FileTree → Prop
  | (.opening, tree) | (.published, tree) => disk.Grows tree
  | (.allocated, tree) => disk.Grows tree ∧ disk.lookup layout.staging = none ∧
      ∃ d, tree.lookup layout.staging = some (.directory d)

theorem Owned.move {state state' : Stage × FileTree} (h : Owned layout disk state)
    (hmove : RunMove layout state state') : Owned layout disk state' := by
  -- on the moves of a run: outside its own directory each only adds, and what it renames is its
  -- own directory
  cases hmove with
  | parent hpath happly => exact FileTree.Grows.ensureDirectory h happly
  | allocate happly =>
      obtain ⟨hnone, hcreated⟩ := FileTree.lookup_createDirectory_self happly
      have habsent := FileTree.Grows.lookup_none h hnone
      refine ⟨FileTree.Grows.apply_absent h happly ?_, habsent, _, hcreated⟩
      intro path hpath
      rw [List.mem_singleton.mp hpath]
      exact habsent
  | ensure hpath happly =>
      obtain ⟨hgrows, habsent, d, hd⟩ := h
      have hkept := (FileTree.Grows.refl _).ensureDirectory happly
      exact ⟨hgrows.trans hkept, habsent, hkept.directory hd⟩
  | work hscope happly =>
      obtain ⟨hgrows, habsent, d, hd⟩ := h
      refine ⟨hgrows.apply_absent happly ?_, habsent, ?_⟩
      · intro path hpath
        obtain ⟨name, rest, rfl⟩ := hscope path hpath
        exact FileTree.lookup_below_none habsent (List.prefix_append _ _)
      · exact FileTree.directory_of_apply_below happly hd hscope
  | publish happly =>
      obtain ⟨hgrows, habsent, d, hd⟩ := h
      exact hgrows.rename_directory happly hd habsent

theorem RunMoves.owned (h : RunMoves layout disk stage tree) :
    Owned layout disk (stage, tree) := by
  unfold RunMoves at h
  generalize (stage, tree) = state at h
  induction h with
  | refl => exact FileTree.Grows.refl disk
  | tail _ hmove ih => exact ih.move hmove

theorem RunMoves.grows (h : RunMoves layout disk stage tree) : disk.Grows tree := by
  have howned := h.owned
  cases stage with
  | opening => exact howned
  | allocated => exact howned.1
  | published => exact howned

/-- Nothing changes away from the two directories of the run and their ancestors. -/
theorem RunMove.frame {state state' : Stage × FileTree} (hmove : RunMove layout state state')
    {path : List FileName} (hstaging : Apart path layout.staging)
    (hfinal : Apart path layout.finalPath) : state'.2.lookup path = state.2.lookup path := by
  have hstagingParent : layout.stagingParent <+: layout.staging := List.prefix_append _ _
  have hrunsParent : layout.runsParent <+: layout.finalPath := List.prefix_append _ _
  cases hmove with
  | parent hpath happly =>
      apply FileTree.lookup_ensureDirectory happly
      intro hother
      rcases hpath with hparent | hparent
      · exact hstaging.1 ((hother.trans hparent).trans hstagingParent)
      · exact hfinal.1 ((hother.trans hparent).trans hrunsParent)
  | allocate happly =>
      apply FileTree.lookup_apply_frame happly
      intro other hother
      rw [List.mem_singleton.mp hother]
      exact ⟨hstaging.2, hstaging.1⟩
  | ensure hpath happly =>
      apply FileTree.lookup_ensureDirectory happly
      intro hother
      -- two prefixes of the attempt's directory are comparable
      have hattempt : layout.staging <+: layout.attemptDirectory := List.prefix_append _ _
      rcases List.prefix_or_prefix_of_prefix (hother.trans hpath) hattempt with hbelow | habove
      · exact hstaging.1 hbelow
      · exact hstaging.2 habove
  | work hscope happly =>
      apply FileTree.lookup_apply_frame happly
      intro other hother
      obtain ⟨name, rest, rfl⟩ := hscope other hother
      have hinside : layout.staging <+: layout.staging ++ name :: rest := List.prefix_append _ _
      constructor
      · exact fun habove => hstaging.2 (hinside.trans habove)
      · intro hbelow
        rcases List.prefix_or_prefix_of_prefix hbelow hinside with hbefore | hbehind
        · exact hstaging.1 hbefore
        · exact hstaging.2 hbehind
  | publish happly =>
      apply FileTree.lookup_apply_frame happly
      intro other hother
      simp only [FileOperation.scope, List.mem_cons, List.not_mem_nil, or_false] at hother
      rcases hother with rfl | rfl
      · exact ⟨hstaging.2, hstaging.1⟩
      · exact ⟨hfinal.2, hfinal.1⟩

theorem RunMoves.frame (h : RunMoves layout disk stage tree) {path : List FileName}
    (hstaging : Apart path layout.staging) (hfinal : Apart path layout.finalPath) :
    tree.lookup path = disk.lookup path := by
  unfold RunMoves at h
  suffices hall : ∀ state, Relation.ReflTransGen (RunMove layout) (.opening, disk) state →
      state.2.lookup path = disk.lookup path from hall _ h
  intro state hstate
  induction hstate with
  | refl => rfl
  | tail _ hmove ih => exact (hmove.frame hstaging hfinal).trans ih

/-- A directory with something in it that the output root of the run does not lead into, and
that is none of the two parents of the run, is left as it is, even where the run has the same
ID. -/
theorem RunMoves.keeps_directory (h : RunMoves layout disk stage tree) {path : List FileName}
    {d : Directory} {name : FileName} {child : Node}
    (hd : disk.lookup path = some (.directory d)) (hchild : d.find? name = some child)
    (hstagingParent : ¬ path <+: layout.stagingParent)
    (hrunsParent : ¬ path <+: layout.runsParent) :
    tree.lookup path = some (.directory d) := by
  have habove : ∀ {last : FileName} {parent : List FileName}, ¬ path <+: parent →
      path <+: parent ++ [last] → path = parent ++ [last] := by
    intro last parent hparent hpath
    rcases List.prefix_concat_iff.mp hpath with hsame | hbefore
    · exact hsame
    · exact absurd hbefore hparent
  unfold RunMoves at h
  suffices hall : ∀ state, Relation.ReflTransGen (RunMove layout) (.opening, disk) state →
      state.2.lookup path = some (.directory d) ∧
        (state.1 = .allocated → ¬ layout.staging <+: path) from (hall _ h).1
  intro state hstate
  induction hstate with
  | refl => exact ⟨hd, fun hopening => by contradiction⟩
  | tail _ hmove ih =>
      obtain ⟨hkept, hnew⟩ := ih
      cases hmove with
      | parent hpath happly =>
          refine ⟨?_, fun hopening => by contradiction⟩
          rw [FileTree.lookup_ensureDirectory happly]
          · exact hkept
          · intro hbelow
            rcases hpath with hparent | hparent
            · exact hstagingParent (hbelow.trans hparent)
            · exact hrunsParent (hbelow.trans hparent)
      | allocate happly =>
          obtain ⟨hnone, -⟩ := FileTree.lookup_createDirectory_self happly
          have hfresh : ¬ layout.staging <+: path := by
            intro hpath
            have hgone := FileTree.lookup_below_none hnone hpath
            rw [hkept] at hgone
            contradiction
          have houtside : ¬ path <+: layout.staging := by
            intro hpath
            exact hfresh (habove hstagingParent hpath ▸ List.prefix_rfl)
          refine ⟨?_, fun _ => hfresh⟩
          rw [FileTree.lookup_apply_frame happly]
          · exact hkept
          · intro other hother
            rw [List.mem_singleton.mp hother]
            exact ⟨hfresh, houtside⟩
      | ensure hpath happly =>
          refine ⟨?_, hnew⟩
          rw [FileTree.lookup_ensureDirectory happly]
          · exact hkept
          · intro hbelow
            have hattempt : layout.staging <+: layout.attemptDirectory := List.prefix_append _ _
            rcases List.prefix_or_prefix_of_prefix (hbelow.trans hpath) hattempt with
              hbefore | hbehind
            · exact hnew rfl (habove hstagingParent hbefore ▸ List.prefix_rfl)
            · exact hnew rfl hbehind
      | work hscope happly =>
          refine ⟨?_, hnew⟩
          rw [FileTree.lookup_apply_frame happly]
          · exact hkept
          · intro other hother
            obtain ⟨first, rest, rfl⟩ := hscope other hother
            have hinside : layout.staging <+: layout.staging ++ first :: rest :=
              List.prefix_append _ _
            constructor
            · exact fun hpath => hnew rfl (hinside.trans hpath)
            · intro hpath
              rcases List.prefix_or_prefix_of_prefix hpath hinside with hbefore | hbehind
              · exact hnew rfl (habove hstagingParent hbefore ▸ List.prefix_rfl)
              · exact hnew rfl hbehind
      | publish happly =>
          refine ⟨?_, fun hpublished => by contradiction⟩
          have houtside : ¬ path <+: layout.staging := by
            intro hpath
            exact hnew rfl (habove hstagingParent hpath ▸ List.prefix_rfl)
          -- the rename replaces no directory with something in it
          have hfinal : ¬ layout.finalPath <+: path := by
            intro hpath
            have hsame := FileTree.rename_below_ne_ok hkept hchild hpath happly
            exact layout.staging_apart_finalPath.ne hsame
          rw [FileTree.lookup_apply_frame happly]
          · exact hkept
          · intro other hother
            simp only [FileOperation.scope, List.mem_cons, List.not_mem_nil, or_false] at hother
            rcases hother with rfl | rfl
            · exact ⟨hnew rfl, houtside⟩
            · refine ⟨hfinal, fun hpath => ?_⟩
              exact hfinal (habove hrunsParent hpath ▸ List.prefix_rfl)

end

/-- At no moment of any run, whatever fails, is anything that was on the disk lost or
changed, and away from the directories of the run and their ancestors nothing changes. -/
theorem run_only_adds (faults : Faults) (codec : Codec) (services : Services)
    (outputRoot : List FileName) (bytes : Bytes) (disk tree : FileTree)
    (hpassed : (runOn codec services outputRoot bytes faults disk).world.Passed tree) :
    (∀ path content, disk.lookup path = some (.file content) →
      tree.lookup path = some (.file content)) ∧
    (∀ path d, disk.lookup path = some (.directory d) →
      ∃ d', tree.lookup path = some (.directory d')) ∧
    ∀ path, Apart path (services.layout outputRoot).staging →
      Apart path (services.layout outputRoot).finalPath →
      tree.lookup path = disk.lookup path := by
  obtain ⟨stage, htraced⟩ := traced_runOn faults codec services outputRoot bytes disk
  obtain ⟨reached, hmoves⟩ := htraced.reached hpassed
  have hgrows := hmoves.grows
  refine ⟨?_, ?_, ?_⟩
  · intro path content hfile
    exact hgrows.file hfile
  · intro path d hd
    exact hgrows.directory hd
  · intro path hstaging hfinal
    exact hmoves.frame hstaging hfinal

namespace SampleRun

def notesName : FileName := .ofString "notes.md" (by decide)

/-- An output root that somebody keeps notes in. -/
def notes : FileTree :=
  ⟨.entry notesName (.file (utf8 "keep these")) .empty, by
    simp [Directory.Distinct, Directory.names]⟩

end SampleRun

/-- The notes are still there when a run has failed beside them. -/
theorem run_only_adds_sample :
    (runOn SampleRun.codec SampleRun.services [] (utf8 SampleRun.document)
      (SampleRun.failingAt 22) SampleRun.notes).world.store.lookup [SampleRun.notesName] =
        some (.file (utf8 "keep these")) :=
  (run_only_adds (SampleRun.failingAt 22) SampleRun.codec SampleRun.services []
    (utf8 SampleRun.document) SampleRun.notes _ (Or.inl rfl)).1 _ _ rfl

end Benchplane
