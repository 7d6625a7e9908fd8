import Benchplane.Run.Run
import Mathlib.Logic.Relation

/-!
# What the history of a run tells

The labels of the attempts say which events were journaled, which run record was
put in place last and which attempt record was written last.  A moment of a run is
a tail of its history, its past; the properties of a run are properties of every
moment since its staging directory was created.
-/

namespace Benchplane

open Library

/-- The attempts so far, the newest first. -/
abbrev Past := List (Attempt FileTree Operation)

/-! ## Reading a past -/

section

variable (layout : Layout)

/-- The event whose line an operation adds to the journal. -/
def Operation.event? : Operation → Option LifecycleEvent
  | .appendRecord path (.event event) => if path = layout.path .events then some event else none
  | _ => none

/-- The run record that an operation puts in place. -/
def Operation.placedRun? : Operation → Option RunRecord
  | .placeRecord _ path (.run record) => if path = layout.path .run then some record else none
  | _ => none

/-- The attempt record that an operation writes. -/
def Operation.attempt? : Operation → Option AttemptRecord
  | .writeRecord path (.attempt record) =>
      if path = layout.temporary .attempt then some record else none
  | _ => none

/-- The attempt record that an operation puts in place. -/
def Operation.placedAttempt? : Operation → Option AttemptRecord
  | .placeRecord _ path (.attempt record) =>
      if path = layout.path .attempt then some record else none
  | _ => none

/-- The directory that an operation creates. -/
def Operation.createdDirectory? : Operation → Option (List FileName)
  | .change (.createDirectory path) => some path
  | _ => none

/-- The events whose lines are in the journal. -/
def journaled : Past → List LifecycleEvent
  | [] => []
  | attempt :: older =>
      if attempt.succeeded then journaled older ++ (attempt.label.event? layout).toList
      else journaled older

/-- The run record put in place last. -/
def latestRun? : Past → Option RunRecord
  | [] => none
  | attempt :: older =>
      if attempt.succeeded then (attempt.label.placedRun? layout).or (latestRun? older)
      else latestRun? older

/-- The attempt record of the last write, whether it went through or not: the record
the run has in memory. -/
def latestAttempt? : Past → Option AttemptRecord
  | [] => none
  | attempt :: older => (attempt.label.attempt? layout).or (latestAttempt? older)

/-- The attempt record put in place last. -/
def placedAttempt? : Past → Option AttemptRecord
  | [] => none
  | attempt :: older =>
      if attempt.succeeded then (attempt.label.placedAttempt? layout).or (placedAttempt? older)
      else placedAttempt? older

/-- The staging directory of the run has been created. -/
def Allocated (past : Past) : Prop :=
  ∃ attempt ∈ past, attempt.succeeded = true ∧
    ∃ path, attempt.label = .change (.createDirectory path) ∧ path = layout.staging

instance (past : Past) : Decidable (Allocated layout past) :=
  decidable_of_iff (∃ attempt ∈ past, attempt.succeeded = true ∧
      attempt.label.createdDirectory? = some layout.staging) <| by
    refine exists_congr fun attempt => and_congr_right fun _ => and_congr_right fun _ => ?_
    unfold Operation.createdDirectory?
    split <;> simp_all

theorem Allocated.ne_nil {layout : Layout} {past : Past} (h : Allocated layout past) :
    past ≠ [] := by
  obtain ⟨attempt, hmem, -⟩ := h
  exact List.ne_nil_of_mem hmem

/-- Whether an attempt is an append to the journal. -/
def IsAppend (attempt : Attempt FileTree Operation) : Prop :=
  (attempt.label.event? layout).isSome = true

/-- `ok` holds of the past at every append to the journal that goes through. -/
def AppendsOnlyWhile (ok : Past → Prop) (past : Past) : Prop :=
  ∀ attempt older, attempt :: older <:+ past → IsAppend layout attempt →
    attempt.succeeded = true → ok older

/-- Every append to the journal has gone through. -/
def AllAppended (past : Past) : Prop :=
  ∀ attempt ∈ past, IsAppend layout attempt → attempt.succeeded = true

/-- The attempt record of the last write is terminal. -/
def AttemptEnded (past : Past) : Prop :=
  ∃ record, latestAttempt? layout past = some record ∧ record.status.isTerminal = true

/-- Some operation failed while the attempt was not terminal. -/
def EarlyFailure (past : Past) : Prop :=
  ∃ attempt older, attempt :: older <:+ past ∧ attempt.succeeded = false ∧
    ¬ AttemptEnded layout (attempt :: older)

/-- The states behind the running of the attempt. -/
def RunState.isLate : RunState → Bool
  | .collecting | .finalizing | .succeeded | .failed | .interrupted => true
  | .created | .preparing | .running => false

/-- An event to a late state is in the journal. -/
def HasLate (events : List LifecycleEvent) : Prop :=
  ∃ event ∈ events, event.toState.isLate = true

/-- Some number of transitions lead from one state to another. -/
def RunState.Reaches (source target : RunState) : Prop :=
  Relation.ReflTransGen (fun a b => isValidTransition a b = true) source target

/-- The bytes of a journal. -/
def journalBytes (events : List LifecycleEvent) : Bytes :=
  events.flatMap fun event => jsonLine event.toJson

/-- The staged journal, where it exists, consists of the lines of the journaled events. -/
def JournalShown (disk : FileTree) (past : Past) : Prop :=
  disk.lookup (layout.path .events) = none ∨
    disk.lookup (layout.path .events) = some (.file (journalBytes (journaled layout past)))

/-- The staged run record, where it exists, is the one put in place last. -/
def RunShown (disk : FileTree) (past : Past) : Prop :=
  disk.lookup (layout.path .run) = none ∨
    ∃ record, latestRun? layout past = some record ∧
      disk.lookup (layout.path .run) = some (.file (jsonBytes record.toJson))

/-- The staged attempt record, where it exists, is the one put in place last; once it is
terminal, it is also the one written last. -/
def AttemptShown (disk : FileTree) (past : Past) : Prop :=
  disk.lookup (layout.path .attempt) = none ∨
    ∃ record, placedAttempt? layout past = some record ∧
      disk.lookup (layout.path .attempt) = some (.file (jsonBytes record.toJson)) ∧
      (record.status.isTerminal = true → latestAttempt? layout past = some record)

/-- A run record that is not ahead of the journal: its status has been journaled, or
nothing has and the run is only created; and it is completed when it is terminal. -/
def Covered (events : List LifecycleEvent) (record : RunRecord) : Prop :=
  ((∃ event ∈ events, event.toState = record.runStatus) ∨
    (events = [] ∧ record.runStatus = .created)) ∧
  record.completedAt.isSome = record.runStatus.isTerminal

end

/-! ## One more attempt -/

section

variable {layout : Layout} {attempt : Attempt FileTree Operation} {past : Past}

theorem journaled_of_quiet
    (h : attempt.succeeded = false ∨ attempt.label.event? layout = none) :
    journaled layout (attempt :: past) = journaled layout past := by
  rcases h with h | h <;> simp [journaled, h]

theorem journaled_of_append {event : LifecycleEvent} (hsucceeded : attempt.succeeded = true)
    (h : attempt.label.event? layout = some event) :
    journaled layout (attempt :: past) = journaled layout past ++ [event] := by
  simp [journaled, hsucceeded, h]

theorem latestRun?_of_quiet
    (h : attempt.succeeded = false ∨ attempt.label.placedRun? layout = none) :
    latestRun? layout (attempt :: past) = latestRun? layout past := by
  rcases h with h | h <;> simp [latestRun?, h]

theorem latestRun?_of_placed {record : RunRecord} (hsucceeded : attempt.succeeded = true)
    (h : attempt.label.placedRun? layout = some record) :
    latestRun? layout (attempt :: past) = some record := by
  simp [latestRun?, hsucceeded, h]

theorem latestAttempt?_of_quiet (h : attempt.label.attempt? layout = none) :
    latestAttempt? layout (attempt :: past) = latestAttempt? layout past := by
  simp [latestAttempt?, h]

theorem latestAttempt?_of_written {record : AttemptRecord}
    (h : attempt.label.attempt? layout = some record) :
    latestAttempt? layout (attempt :: past) = some record := by
  simp [latestAttempt?, h]

theorem placedAttempt?_of_quiet
    (h : attempt.succeeded = false ∨ attempt.label.placedAttempt? layout = none) :
    placedAttempt? layout (attempt :: past) = placedAttempt? layout past := by
  rcases h with h | h <;> simp [placedAttempt?, h]

theorem placedAttempt?_of_placed {record : AttemptRecord} (hsucceeded : attempt.succeeded = true)
    (h : attempt.label.placedAttempt? layout = some record) :
    placedAttempt? layout (attempt :: past) = some record := by
  simp [placedAttempt?, hsucceeded, h]

theorem Allocated.cons (h : Allocated layout past) : Allocated layout (attempt :: past) := by
  obtain ⟨other, hmem, hrest⟩ := h
  exact ⟨other, List.mem_cons_of_mem _ hmem, hrest⟩

theorem AppendsOnlyWhile.of_cons {ok : Past → Prop}
    (h : AppendsOnlyWhile layout ok (attempt :: past)) : AppendsOnlyWhile layout ok past :=
  fun other older hsuffix => h other older (hsuffix.trans (List.suffix_cons _ _))

theorem AppendsOnlyWhile.head {ok : Past → Prop}
    (h : AppendsOnlyWhile layout ok (attempt :: past)) (happend : IsAppend layout attempt)
    (hsucceeded : attempt.succeeded = true) : ok past :=
  h attempt past List.suffix_rfl happend hsucceeded

theorem AllAppended.of_cons (h : AllAppended layout (attempt :: past)) :
    AllAppended layout past :=
  fun other hmem => h other (List.mem_cons_of_mem _ hmem)

theorem EarlyFailure.cons (h : EarlyFailure layout past) :
    EarlyFailure layout (attempt :: past) := by
  obtain ⟨other, older, hsuffix, hrest⟩ := h
  exact ⟨other, older, hsuffix.trans (List.suffix_cons _ _), hrest⟩

theorem RunState.Reaches.refl (state : RunState) : state.Reaches state :=
  Relation.ReflTransGen.refl

theorem RunState.Reaches.step {source middle target : RunState} (h : source.Reaches middle)
    (hstep : isValidTransition middle target = true) : source.Reaches target :=
  Relation.ReflTransGen.tail h hstep

/-- Nothing follows a terminal state. -/
theorem RunState.Reaches.eq_of_terminal {source target : RunState} (h : source.Reaches target)
    (hterminal : source.isTerminal = true) : target = source := by
  induction h with
  | refl => rfl
  | tail _ hstep ih =>
      rw [ih] at hstep
      cases source <;> simp_all [RunState.isTerminal, isValidTransition]

theorem RunState.Reaches.trans {source middle target : RunState} (h : source.Reaches middle)
    (h' : middle.Reaches target) : source.Reaches target :=
  Relation.ReflTransGen.trans h h'

/-- A covered record stays covered when the journal grows; the first event is that of
the creation. -/
theorem Covered.append {events : List LifecycleEvent} {record : RunRecord}
    (h : Covered events record) {event : LifecycleEvent}
    (hfirst : events = [] → event.toState = .created) : Covered (events ++ [event]) record := by
  refine ⟨Or.inl ?_, h.2⟩
  rcases h.1 with ⟨other, hmem, hstate⟩ | ⟨hnil, hcreated⟩
  · exact ⟨other, List.mem_append_left _ hmem, hstate⟩
  · exact ⟨event, by simp, (hfirst hnil).trans hcreated.symm⟩

end

/-! ## The journal -/

/-- The lifecycle goes on from the journal as long as no append has failed, and the
journal is without gaps as long as no append went through behind a failed one. -/
structure JournalKept (layout : Layout) (disk : FileTree) (past : Past) (v : RunLocals) :
    Prop where
  shown : JournalShown layout disk past
  continuous : AppendsOnlyWhile layout (AllAppended layout) past →
    IsJournal (journaled layout past)
  follows : AllAppended layout past → journaled layout past ≠ [] →
    v.lifecycle.Follows (journaled layout past)
  opening : journaled layout past = [] → v.lifecycle.state = .created

namespace JournalKept

variable {layout : Layout} {disk : FileTree} {past : Past} {v v' : RunLocals}
  {attempt : Attempt FileTree Operation}

/-- An attempt that does not change the journal, or a failing one. -/
theorem quiet (h : JournalKept layout disk past v) (attempt : Attempt FileTree Operation)
    (hquiet : attempt.succeeded = false ∨ attempt.label.event? layout = none)
    (hsame : attempt.after.lookup (layout.path .events) = disk.lookup (layout.path .events)) :
    JournalKept layout attempt.after (attempt :: past) v where
  shown := by
    unfold JournalShown
    rw [journaled_of_quiet hquiet, hsame]
    exact h.shown
  continuous hkept := by
    rw [journaled_of_quiet hquiet]
    exact h.continuous hkept.of_cons
  follows hall hne := by
    rw [journaled_of_quiet hquiet] at hne ⊢
    exact h.follows hall.of_cons hne
  opening hnil := by
    rw [journaled_of_quiet hquiet] at hnil
    exact h.opening hnil

/-- The disk only matters for what is shown there. -/
theorem of_shown {disk' : FileTree} (h : JournalKept layout disk past v)
    (hshown : JournalShown layout disk' past) : JournalKept layout disk' past v :=
  { h with shown := hshown }

/-- The journal only looks at the lifecycle. -/
theorem of_lifecycle (h : JournalKept layout disk past v) (hsame : v'.lifecycle = v.lifecycle) :
    JournalKept layout disk past v' where
  shown := h.shown
  continuous := h.continuous
  follows := hsame ▸ h.follows
  opening := hsame ▸ h.opening

/-- An append that goes through adds the event of the transition. -/
theorem appended {lifecycle : Lifecycle} {event : LifecycleEvent} {target : RunState}
    {recordedAt : String} {failure : Option FailureRecord} (h : JournalKept layout disk past v)
    (hnonempty : journaled layout past ≠ [])
    (hstep : v.lifecycle.transition target recordedAt failure = .ok (event, lifecycle))
    (hsucceeded : attempt.succeeded = true) (hevent : attempt.label.event? layout = some event)
    (hshown : JournalShown layout attempt.after (attempt :: past)) :
    JournalKept layout attempt.after (attempt :: past) { v with lifecycle := lifecycle } := by
  have happend : IsAppend layout attempt := by simp [IsAppend, hevent]
  have hfollows : AllAppended layout past →
      lifecycle.Follows (journaled layout (attempt :: past)) := by
    intro hall
    rw [journaled_of_append hsucceeded hevent]
    exact (h.follows hall hnonempty).transition hstep
  refine ⟨hshown, fun hkept => (hfollows (hkept.head happend hsucceeded)).journal,
    fun hall _ => hfollows hall.of_cons, fun hnil => ?_⟩
  rw [journaled_of_append hsucceeded hevent] at hnil
  simp at hnil

/-- An append that fails leaves the lifecycle ahead of the journal. -/
theorem missed {lifecycle : Lifecycle} {event : LifecycleEvent} (h : JournalKept layout disk past v)
    (hnonempty : journaled layout past ≠ []) (hfailed : attempt.succeeded = false)
    (hevent : attempt.label.event? layout = some event)
    (hsame : attempt.after.lookup (layout.path .events) = disk.lookup (layout.path .events)) :
    JournalKept layout attempt.after (attempt :: past) { v with lifecycle := lifecycle } where
  shown := (h.quiet _ (Or.inl hfailed) hsame).shown
  continuous := (h.quiet _ (Or.inl hfailed) hsame).continuous
  follows hall _ := by
    have hsucceeded := hall attempt List.mem_cons_self (by simp [IsAppend, hevent])
    rw [hfailed] at hsucceeded
    contradiction
  opening hnil := by
    rw [journaled_of_quiet (Or.inl hfailed)] at hnil
    exact absurd hnil hnonempty

end JournalKept

/-! ## The run record -/

/-- The run record in memory and the one on the disk are not ahead of the journal, and
no version of it goes back. -/
structure SnapshotKept (layout : Layout) (disk : FileTree) (past : Past) (v : RunLocals) :
    Prop where
  shown : RunShown layout disk past
  covered : Covered (journaled layout past) v.runRecord
  ahead : v.runRecord.runStatus.Reaches v.lifecycle.state
  versions : ∀ earlier, earlier <:+ past → ∀ record, latestRun? layout earlier = some record →
    record.runStatus.Reaches v.runRecord.runStatus
  latest : ∀ record, latestRun? layout past = some record →
    Covered (journaled layout past) record ∧
    ∀ earlier, earlier <:+ past → ∀ other, latestRun? layout earlier = some other →
      other.runStatus.Reaches record.runStatus

namespace SnapshotKept

variable {layout : Layout} {disk : FileTree} {past : Past} {v v' : RunLocals}
  {attempt : Attempt FileTree Operation}

/-- The disk only matters for what is shown there. -/
theorem of_shown {disk' : FileTree} (h : SnapshotKept layout disk past v)
    (hshown : RunShown layout disk' past) : SnapshotKept layout disk' past v :=
  { h with shown := hshown }

/-- An attempt that puts no run record in place; the journal may grow. -/
theorem step (h : SnapshotKept layout disk past v) (attempt : Attempt FileTree Operation)
    (hquiet : attempt.succeeded = false ∨ attempt.label.placedRun? layout = none)
    (hsame : attempt.after.lookup (layout.path .run) = disk.lookup (layout.path .run))
    (hjournal : ∀ record, Covered (journaled layout past) record →
      Covered (journaled layout (attempt :: past)) record) :
    SnapshotKept layout attempt.after (attempt :: past) v := by
  have hlatest : latestRun? layout (attempt :: past) = latestRun? layout past :=
    latestRun?_of_quiet hquiet
  refine ⟨?_, hjournal _ h.covered, h.ahead, ?_, ?_⟩
  · unfold RunShown
    rw [hlatest, hsame]
    exact h.shown
  · intro earlier hsuffix record hrecord
    rcases List.suffix_cons_iff.mp hsuffix with rfl | hbefore
    · exact h.versions past List.suffix_rfl record (hlatest ▸ hrecord)
    · exact h.versions earlier hbefore record hrecord
  · intro record hrecord
    rw [hlatest] at hrecord
    obtain ⟨hcovered, hothers⟩ := h.latest record hrecord
    refine ⟨hjournal _ hcovered, fun earlier hsuffix other hother => ?_⟩
    rcases List.suffix_cons_iff.mp hsuffix with rfl | hbefore
    · exact hothers past List.suffix_rfl other (hlatest ▸ hother)
    · exact hothers earlier hbefore other hother

/-- An attempt that changes neither the journal nor the run record, or a failing one. -/
theorem quiet (h : SnapshotKept layout disk past v) (attempt : Attempt FileTree Operation)
    (hevent : attempt.succeeded = false ∨ attempt.label.event? layout = none)
    (hplaced : attempt.succeeded = false ∨ attempt.label.placedRun? layout = none)
    (hsame : attempt.after.lookup (layout.path .run) = disk.lookup (layout.path .run)) :
    SnapshotKept layout attempt.after (attempt :: past) v :=
  h.step _ hplaced hsame fun _ hcovered => by rwa [journaled_of_quiet hevent]

/-- The run record in memory is put in place. -/
theorem placed (h : SnapshotKept layout disk past v) (hsucceeded : attempt.succeeded = true)
    (hevent : attempt.label.event? layout = none)
    (hplaced : attempt.label.placedRun? layout = some v.runRecord)
    (hshown : attempt.after.lookup (layout.path .run) =
      some (.file (jsonBytes v.runRecord.toJson))) :
    SnapshotKept layout attempt.after (attempt :: past) v := by
  have hlatest : latestRun? layout (attempt :: past) = some v.runRecord :=
    latestRun?_of_placed hsucceeded hplaced
  have hjournal : journaled layout (attempt :: past) = journaled layout past :=
    journaled_of_quiet (Or.inr hevent)
  have hversions : ∀ earlier, earlier <:+ attempt :: past → ∀ record,
      latestRun? layout earlier = some record →
      record.runStatus.Reaches v.runRecord.runStatus := by
    intro earlier hsuffix record hrecord
    rcases List.suffix_cons_iff.mp hsuffix with rfl | hbefore
    · rw [hlatest] at hrecord
      exact Option.some.inj hrecord ▸ RunState.Reaches.refl _
    · exact h.versions earlier hbefore record hrecord
  refine ⟨Or.inr ⟨_, hlatest, hshown⟩, hjournal ▸ h.covered, h.ahead, hversions, ?_⟩
  intro record hrecord
  rw [hlatest] at hrecord
  obtain rfl := Option.some.inj hrecord
  exact ⟨hjournal ▸ h.covered, hversions⟩

/-- The lifecycle moves on. -/
theorem advanced (h : SnapshotKept layout disk past v)
    (hrecord : v'.runRecord = v.runRecord)
    (hahead : v.runRecord.runStatus.Reaches v'.lifecycle.state) :
    SnapshotKept layout disk past v' where
  shown := h.shown
  covered := hrecord ▸ h.covered
  ahead := hrecord ▸ hahead
  versions := hrecord ▸ h.versions
  latest := h.latest

/-- The run record in memory catches up with the lifecycle. -/
theorem caughtUp (h : SnapshotKept layout disk past v) (hlifecycle : v'.lifecycle = v.lifecycle)
    (hstatus : v'.runRecord.runStatus = v.lifecycle.state)
    (hcovered : Covered (journaled layout past) v'.runRecord) :
    SnapshotKept layout disk past v' where
  shown := h.shown
  covered := hcovered
  ahead := by
    rw [hlifecycle, hstatus]
    exact RunState.Reaches.refl _
  versions earlier hsuffix record hrecord := by
    rw [hstatus]
    exact (h.versions earlier hsuffix record hrecord).trans h.ahead
  latest := h.latest

/-- A change of the run record that keeps its status and its completion. -/
theorem annotated (h : SnapshotKept layout disk past v) (hlifecycle : v'.lifecycle = v.lifecycle)
    (hstatus : v'.runRecord.runStatus = v.runRecord.runStatus)
    (hcompleted : v'.runRecord.completedAt = v.runRecord.completedAt) :
    SnapshotKept layout disk past v' where
  shown := h.shown
  covered := by
    unfold Covered
    rw [hstatus, hcompleted]
    exact h.covered
  ahead := by
    rw [hlifecycle, hstatus]
    exact h.ahead
  versions := hstatus ▸ h.versions
  latest := h.latest

end SnapshotKept

/-! ## The attempt -/

/-- The attempt record in memory is the one written last and does not change once it is
terminal; and it is terminal before a late event is journaled, unless an append went
through behind an early failure.  The one on the disk has been put in place last. -/
structure AttemptKept (layout : Layout) (disk : FileTree) (past : Past) (v : RunLocals) :
    Prop where
  shown : AttemptShown layout disk past
  known : latestAttempt? layout past = some v.attemptRecord ∨
    (latestAttempt? layout past = none ∧ v.attemptRecord.status.isTerminal = false)
  ended : ∀ earlier, earlier <:+ past → ∀ record, latestAttempt? layout earlier = some record →
    record.status.isTerminal = true → record = v.attemptRecord
  late : AppendsOnlyWhile layout (fun older => ¬ EarlyFailure layout older) past →
    ∀ earlier, earlier <:+ past → HasLate (journaled layout earlier) →
      AttemptEnded layout earlier

namespace AttemptKept

variable {layout : Layout} {disk : FileTree} {past : Past} {v v' : RunLocals}
  {attempt : Attempt FileTree Operation}

theorem attemptEnded (h : AttemptKept layout disk past v)
    (hterminal : v.attemptRecord.status.isTerminal = true) : AttemptEnded layout past := by
  rcases h.known with hknown | ⟨-, hopen⟩
  · exact ⟨_, hknown, hterminal⟩
  · rw [hterminal] at hopen
    contradiction

/-- The disk only matters for what is shown there. -/
theorem of_shown {disk' : FileTree} (h : AttemptKept layout disk past v)
    (hshown : AttemptShown layout disk' past) : AttemptKept layout disk' past v :=
  { h with shown := hshown }

/-- What is shown stays as long as the record on the disk does, and the last one written if it
is terminal. -/
theorem shown_quiet (h : AttemptShown layout disk past)
    (hplaced : attempt.succeeded = false ∨ attempt.label.placedAttempt? layout = none)
    (hlatest : ∀ record, record.status.isTerminal = true →
      latestAttempt? layout past = some record →
        latestAttempt? layout (attempt :: past) = some record)
    (hsame : attempt.after.lookup (layout.path .attempt) = disk.lookup (layout.path .attempt)) :
    AttemptShown layout attempt.after (attempt :: past) := by
  unfold AttemptShown
  rw [placedAttempt?_of_quiet hplaced, hsame]
  rcases h with hnone | ⟨record, hrecord, hshown, hterminal⟩
  · exact Or.inl hnone
  · exact Or.inr ⟨record, hrecord, hshown, fun hended => hlatest record hended (hterminal hended)⟩

theorem shown_silent (h : AttemptShown layout disk past) (attempt : Attempt FileTree Operation)
    (hattempt : attempt.label.attempt? layout = none)
    (hplaced : attempt.succeeded = false ∨ attempt.label.placedAttempt? layout = none)
    (hsame : attempt.after.lookup (layout.path .attempt) = disk.lookup (layout.path .attempt)) :
    AttemptShown layout attempt.after (attempt :: past) :=
  shown_quiet h hplaced (fun _ _ hrecord => (latestAttempt?_of_quiet hattempt).trans hrecord) hsame

/-- An attempt that writes no attempt record and journals no new late event, unless the
attempt has ended or an early failure came before. -/
theorem step (h : AttemptKept layout disk past v) (attempt : Attempt FileTree Operation)
    (hattempt : attempt.label.attempt? layout = none)
    (hshown : AttemptShown layout attempt.after (attempt :: past))
    (hlate : HasLate (journaled layout (attempt :: past)) →
      HasLate (journaled layout past) ∨ AttemptEnded layout past ∨
        (IsAppend layout attempt ∧ attempt.succeeded = true ∧ EarlyFailure layout past)) :
    AttemptKept layout attempt.after (attempt :: past) v := by
  have hlatest : latestAttempt? layout (attempt :: past) = latestAttempt? layout past :=
    latestAttempt?_of_quiet hattempt
  refine ⟨hshown, hlatest ▸ h.known, ?_, ?_⟩
  · intro earlier hsuffix record hrecord
    rcases List.suffix_cons_iff.mp hsuffix with rfl | hbefore
    · exact h.ended past List.suffix_rfl record (hlatest ▸ hrecord)
    · exact h.ended earlier hbefore record hrecord
  · intro hkept earlier hsuffix hevent
    rcases List.suffix_cons_iff.mp hsuffix with rfl | hbefore
    · have hended : AttemptEnded layout past := by
        rcases hlate hevent with hold | hended | ⟨happend, hsucceeded, hfailure⟩
        · exact h.late hkept.of_cons past List.suffix_rfl hold
        · exact hended
        · exact absurd hfailure (hkept.head happend hsucceeded)
      obtain ⟨record, hrecord, hterminal⟩ := hended
      exact ⟨record, hlatest.trans hrecord, hterminal⟩
    · exact h.late hkept.of_cons earlier hbefore hevent

theorem quiet (h : AttemptKept layout disk past v) (attempt : Attempt FileTree Operation)
    (hattempt : attempt.label.attempt? layout = none)
    (hplaced : attempt.succeeded = false ∨ attempt.label.placedAttempt? layout = none)
    (hsame : attempt.after.lookup (layout.path .attempt) = disk.lookup (layout.path .attempt))
    (hevent : attempt.succeeded = false ∨ attempt.label.event? layout = none) :
    AttemptKept layout attempt.after (attempt :: past) v :=
  h.step _ hattempt (shown_silent h.shown _ hattempt hplaced hsame) fun hlate =>
    Or.inl (by rwa [journaled_of_quiet hevent] at hlate)

/-- The attempt record in memory is put in place. -/
theorem placed (h : AttemptKept layout disk past v)
    (hknown : latestAttempt? layout past = some v.attemptRecord)
    (hsucceeded : attempt.succeeded = true) (hattempt : attempt.label.attempt? layout = none)
    (hevent : attempt.label.event? layout = none)
    (hplaced : attempt.label.placedAttempt? layout = some v.attemptRecord)
    (hshown : attempt.after.lookup (layout.path .attempt) =
      some (.file (jsonBytes v.attemptRecord.toJson))) :
    AttemptKept layout attempt.after (attempt :: past) v := by
  have hlatest : latestAttempt? layout (attempt :: past) = some v.attemptRecord :=
    (latestAttempt?_of_quiet hattempt).trans hknown
  have hnow : AttemptShown layout attempt.after (attempt :: past) :=
    Or.inr ⟨_, placedAttempt?_of_placed hsucceeded hplaced, hshown, fun _ => hlatest⟩
  exact h.step _ hattempt hnow fun hlate =>
    Or.inl (by rwa [journaled_of_quiet (Or.inr hevent)] at hlate)

/-- The attempt record in memory is written; it may be a new one as long as the one
before was not terminal. -/
theorem written (h : AttemptKept layout disk past v) (attempt : Attempt FileTree Operation)
    (hattempt : attempt.label.attempt? layout = some v'.attemptRecord)
    (hplaced : attempt.succeeded = false ∨ attempt.label.placedAttempt? layout = none)
    (hsame : attempt.after.lookup (layout.path .attempt) = disk.lookup (layout.path .attempt))
    (hevent : attempt.label.event? layout = none)
    (hnew : v'.attemptRecord = v.attemptRecord ∨ v.attemptRecord.status.isTerminal = false) :
    AttemptKept layout attempt.after (attempt :: past) v' := by
  have hlatest : latestAttempt? layout (attempt :: past) = some v'.attemptRecord :=
    latestAttempt?_of_written hattempt
  have hjournal : journaled layout (attempt :: past) = journaled layout past :=
    journaled_of_quiet (Or.inr hevent)
  -- a terminal record that was written before is the one in memory
  have hended : ∀ earlier, earlier <:+ past → ∀ record,
      latestAttempt? layout earlier = some record → record.status.isTerminal = true →
      record = v'.attemptRecord := by
    intro earlier hsuffix record hrecord hterminal
    have hsame := h.ended earlier hsuffix record hrecord hterminal
    rcases hnew with hkeep | hopen
    · rw [hkeep, hsame]
    · rw [hsame, hopen] at hterminal
      contradiction
  have hshown : AttemptShown layout attempt.after (attempt :: past) := by
    apply shown_quiet h.shown hplaced ?_ hsame
    intro record hterminal hrecord
    rw [hlatest, hended past List.suffix_rfl record hrecord hterminal]
  refine ⟨hshown, Or.inl hlatest, ?_, ?_⟩
  · intro earlier hsuffix record hrecord hterminal
    rcases List.suffix_cons_iff.mp hsuffix with rfl | hbefore
    · exact Option.some.inj (hrecord.symm.trans hlatest)
    · exact hended earlier hbefore record hrecord hterminal
  · intro hkept earlier hsuffix hlate
    rcases List.suffix_cons_iff.mp hsuffix with rfl | hbefore
    · rw [hjournal] at hlate
      obtain ⟨record, hrecord, hterminal⟩ := h.late hkept.of_cons past List.suffix_rfl hlate
      have hsame := hended past List.suffix_rfl record hrecord hterminal
      exact ⟨_, hlatest, hsame ▸ hterminal⟩
    · exact h.late hkept.of_cons earlier hbefore hlate

theorem of_attemptRecord (h : AttemptKept layout disk past v)
    (hsame : v'.attemptRecord = v.attemptRecord) : AttemptKept layout disk past v' where
  shown := h.shown
  known := hsame ▸ h.known
  ended := hsame ▸ h.ended
  late := h.late

end AttemptKept

end Benchplane
