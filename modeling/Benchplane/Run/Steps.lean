import Benchplane.Run.Chronicle
import Benchplane.Evidence.InventoryWriter

/-!
# Steps of a run

Every step of a run, failing or not, keeps the run coherent: the journal, the run
record and the attempt record agree with one another at every moment.
-/

namespace Benchplane

open Library

/-! ## Coherence -/

/-- The staged run record is not ahead of the journal, and no version of it went back. -/
def SnapshotBehind (layout : Layout) (disk : FileTree) (past : Past) : Prop :=
  RunShown layout disk past ∧
    ∀ record, latestRun? layout past = some record →
      Covered (journaled layout past) record ∧
      ∀ earlier, earlier <:+ past → ∀ other, latestRun? layout earlier = some other →
        other.runStatus.Reaches record.runStatus

/-- Whenever a late event had been journaled, the attempt record was terminal, and it has
not changed since. -/
def AttemptSettled (layout : Layout) (past : Past) : Prop :=
  ∀ earlier, earlier <:+ past → HasLate (journaled layout earlier) →
    ∃ record, record.status.isTerminal = true ∧ latestAttempt? layout earlier = some record ∧
      latestAttempt? layout past = some record

/-- The payloads that tell how far the run has got. -/
inductive IsRecord : StagedFile → Prop where
  | events : IsRecord .events
  | run : IsRecord .run
  | attempt : IsRecord .attempt

/-- What holds at a moment of a run. -/
structure Sound (layout : Layout) (disk : FileTree) (past : Past) : Prop where
  shown : JournalShown layout disk past
  continuous : AppendsOnlyWhile layout (AllAppended layout) past →
    IsJournal (journaled layout past)
  snapshot : SnapshotBehind layout disk past
  attemptShown : AttemptShown layout disk past
  attempt : AppendsOnlyWhile layout (fun older => ¬ EarlyFailure layout older) past →
    AttemptSettled layout past

/-- The state of a run with its past. -/
structure Coherent (layout : Layout) (disk : FileTree) (past : Past) (v : RunLocals) : Prop where
  allocated : Allocated layout past
  journal : JournalKept layout disk past v
  snapshot : SnapshotKept layout disk past v
  attempt : AttemptKept layout disk past v
  moments : Throughout (fun disk past => Allocated layout past → Sound layout disk past) past

theorem sound_of_kept {layout : Layout} {disk : FileTree} {past : Past} {v : RunLocals}
    (hjournal : JournalKept layout disk past v) (hsnapshot : SnapshotKept layout disk past v)
    (hattempt : AttemptKept layout disk past v) : Sound layout disk past where
  shown := hjournal.shown
  continuous := hjournal.continuous
  snapshot := ⟨hsnapshot.shown, hsnapshot.latest⟩
  attemptShown := hattempt.shown
  attempt hkept earlier hsuffix hlate := by
    obtain ⟨record, hrecord, hterminal⟩ := hattempt.late hkept earlier hsuffix hlate
    have hsame := hattempt.ended earlier hsuffix record hrecord hterminal
    obtain ⟨last, hlast, -⟩ := hattempt.attemptEnded (hsame ▸ hterminal)
    refine ⟨record, hterminal, hrecord, ?_⟩
    rcases hattempt.known with hknown | ⟨hnone, -⟩
    · rw [hknown, hsame]
    · rw [hnone] at hlast
      contradiction

namespace Coherent

variable {layout : Layout} {disk : FileTree} {past : Past} {v v' : RunLocals}
  {attempt : Attempt FileTree Operation}

/-- One more attempt, whose three parts have been checked. -/
theorem extend (h : Coherent layout disk past v) (attempt : Attempt FileTree Operation)
    (hjournal : JournalKept layout attempt.after (attempt :: past) v')
    (hsnapshot : SnapshotKept layout attempt.after (attempt :: past) v')
    (hattempt : AttemptKept layout attempt.after (attempt :: past) v') :
    Coherent layout attempt.after (attempt :: past) v' where
  allocated := h.allocated.cons
  journal := hjournal
  snapshot := hsnapshot
  attempt := hattempt
  moments := h.moments.cons fun _ => sound_of_kept hjournal hsnapshot hattempt

/-- An attempt that touches neither the journal nor the records, or a failing one that
writes no attempt record. -/
theorem quiet (h : Coherent layout disk past v) (attempt : Attempt FileTree Operation)
    (hevent : attempt.succeeded = false ∨ attempt.label.event? layout = none)
    (hplaced : attempt.succeeded = false ∨
      (attempt.label.placedRun? layout = none ∧ attempt.label.placedAttempt? layout = none))
    (hwritten : attempt.label.attempt? layout = none)
    (hsame : ∀ file, IsRecord file →
      attempt.after.lookup (layout.path file) = disk.lookup (layout.path file)) :
    Coherent layout attempt.after (attempt :: past) v :=
  h.extend _ (h.journal.quiet _ hevent (hsame _ .events))
    (h.snapshot.quiet _ hevent (hplaced.imp_right And.left) (hsame _ .run))
    (h.attempt.quiet _ hwritten (hplaced.imp_right And.right) (hsame _ .attempt) hevent)

/-- The state of a run whose attempt is open when an operation fails. -/
theorem earlyFailure (h : Coherent layout disk (attempt :: past) v)
    (hfailed : attempt.succeeded = false) (hopen : v.attemptRecord.status.isTerminal = false) :
    EarlyFailure layout (attempt :: past) := by
  refine ⟨attempt, past, List.suffix_rfl, hfailed, ?_⟩
  rintro ⟨record, hrecord, hterminal⟩
  rcases h.attempt.known with hknown | ⟨hnone, -⟩
  · rw [hknown] at hrecord
    rw [← Option.some.inj hrecord, hopen] at hterminal
    contradiction
  · rw [hnone] at hrecord
    contradiction

end Coherent

/-! ## Labels by their paths -/

section

variable {layout : Layout} {label : Operation}

theorem event?_eq_none (h : layout.path .events ∉ label.scope) : label.event? layout = none := by
  unfold Operation.event?
  split
  · rename_i path event
    refine if_neg fun hpath => h ?_
    simp [Operation.scope, hpath]
  · rfl

/-- An operation on one payload leaves the others. -/
theorem lookup_others {operation : FileOperation} {placed : StagedFile} {disk tree : FileTree}
    (happly : operation.apply disk = .ok tree) (hscope : operation.scope = [layout.path placed])
    {file : StagedFile} (hne : placed ≠ file) :
    tree.lookup (layout.path file) = disk.lookup (layout.path file) := by
  refine FileTree.lookup_apply_frame happly fun path hpath => ?_
  rw [hscope, List.mem_singleton] at hpath
  exact hpath ▸ layout.path_apart hne

theorem placedRun?_eq_none (h : layout.path .run ∉ label.scope) :
    label.placedRun? layout = none := by
  unfold Operation.placedRun?
  split
  · rename_i path record
    refine if_neg fun hpath => h ?_
    simp [Operation.scope, hpath]
  · rfl

theorem placedAttempt?_eq_none (h : layout.path .attempt ∉ label.scope) :
    label.placedAttempt? layout = none := by
  unfold Operation.placedAttempt?
  split
  · rename_i path record
    refine if_neg fun hpath => h ?_
    simp [Operation.scope, hpath]
  · rfl

theorem attempt?_eq_none (h : layout.temporary .attempt ∉ label.scope) :
    label.attempt? layout = none := by
  unfold Operation.attempt?
  split
  · rename_i path record
    refine if_neg fun hpath => h ?_
    simp [Operation.scope, hpath]
  · rfl

end

/-! ## Side conditions that survive quiet attempts -/

/-- A condition on the past and the locals that an attempt keeps unless it adds to the
journal. -/
def Quietly (layout : Layout) (Q : Past → RunLocals → Prop) : Prop :=
  ∀ attempt past v, Q past v → (attempt.succeeded = false ∨ attempt.label.event? layout = none) →
    Q (attempt :: past) v

/-- A coherent run with a side condition. -/
def Along (layout : Layout) (Q : Past → RunLocals → Prop) (w : DiskWorld) (v : RunLocals) : Prop :=
  Coherent layout w.store w.history v ∧ Q w.history v

/-- The paths that a coherent run depends on are out of the scope. -/
structure Aside (layout : Layout) (scope : List (List FileName)) : Prop where
  apart : ∀ path ∈ scope, ∀ file, IsRecord file → Apart path (layout.path file)
  attempt : layout.temporary .attempt ∉ scope

theorem Aside.not_mem {layout : Layout} {scope : List (List FileName)} (h : Aside layout scope)
    {file : StagedFile} (hfile : IsRecord file) : layout.path file ∉ scope :=
  fun hmem => (h.apart _ hmem file hfile).ne rfl

/-- Attempts aside keep the run coherent. -/
theorem respects_along {layout : Layout} {Q : Past → RunLocals → Prop} {v : RunLocals}
    {scope : List (List FileName)} (haside : Aside layout scope) (hQ : Quietly layout Q) :
    Respects scope fun w => Along layout Q w v where
  performed w label operation tree h hlabel hscope happly := by
    have hlabelScope : ∀ path ∈ label.scope, path ∈ scope := fun path hpath =>
      hscope path (hlabel ▸ hpath)
    have hevent : label.event? layout = none := event?_eq_none fun hmem =>
      haside.not_mem .events (hlabelScope _ hmem)
    refine ⟨h.1.quiet ⟨label, true, tree⟩ (Or.inr hevent)
      (Or.inr ⟨placedRun?_eq_none fun hmem => haside.not_mem .run (hlabelScope _ hmem),
        placedAttempt?_eq_none fun hmem => haside.not_mem .attempt (hlabelScope _ hmem)⟩)
      (attempt?_eq_none fun hmem => haside.attempt (hlabelScope _ hmem)) ?_,
      hQ ⟨label, true, tree⟩ _ _ h.2 (Or.inr hevent)⟩
    intro file hfile
    exact FileTree.lookup_apply_frame happly fun path hpath =>
      haside.apart path (hscope path hpath) file hfile
  refused w label h hscope :=
    ⟨h.1.quiet ⟨label, false, w.store⟩ (Or.inl rfl) (Or.inl rfl)
      (attempt?_eq_none fun hmem => haside.attempt (hscope _ hmem)) fun _ _ => rfl,
      hQ ⟨label, false, w.store⟩ _ _ h.2 (Or.inl rfl)⟩
  read w path h :=
    ⟨h.1.quiet ⟨.read path, true, w.store⟩ (Or.inr rfl) (Or.inr ⟨rfl, rfl⟩) rfl
      fun _ _ => rfl, hQ ⟨.read path, true, w.store⟩ _ _ h.2 (Or.inr rfl)⟩
  clock _ _ h := h

/-- The payloads other than the journal and the two records are aside. -/
theorem aside_payload (layout : Layout) {file : StagedFile} (hevents : file ≠ .events)
    (hrun : file ≠ .run) (hattempt : file ≠ .attempt) :
    Aside layout [layout.temporary file, layout.path file] where
  apart path hpath other hother := by
    have hne : file ≠ other := by cases hother <;> assumption
    simp only [List.mem_cons, List.not_mem_nil, or_false] at hpath
    rcases hpath with rfl | rfl
    · exact layout.temporary_apart file other
    · exact layout.path_apart hne
  attempt hmem := by
    simp only [List.mem_cons, List.not_mem_nil, or_false] at hmem
    rcases hmem with hsame | hsame
    · exact layout.temporary_ne hattempt hsame.symm
    · exact (layout.temporary_apart .attempt file).ne hsame

/-! ## Writing a record -/

section

variable {ρ : Type} {faults : Faults} {formatFloat : FormatFloat}
  {temporary path : List FileName} {record : Record}

/-- A tree that has changed nowhere apart from a path. -/
def SameApartFrom (paths : List (List FileName)) (disk disk' : FileTree) : Prop :=
  ∀ other, (∀ path ∈ paths, Apart path other) → disk'.lookup other = disk.lookup other

theorem SameApartFrom.refl (paths : List (List FileName)) (disk : FileTree) :
    SameApartFrom paths disk disk := fun _ _ => rfl

theorem sameApartFrom_apply {operation : FileOperation} {disk disk' : FileTree}
    (h : operation.apply disk = .ok disk') : SameApartFrom operation.scope disk disk' :=
  fun _ hother => FileTree.lookup_apply_frame h hother

/-- The rule for `write_json_atomic`: `mid` holds from the first write on, and the record
is in place only at the end. -/
theorem triple_writeJsonAtomic (inv mid : DiskWorld → ρ → Prop)
    (post : Unit → DiskWorld → ρ → Prop) (hapart : Apart temporary path)
    (hfirst : ∀ w v succeeded tree, inv w v → SameApartFrom [temporary] w.store tree →
      mid { w with
        store := tree
        history := ⟨.writeRecord temporary record, succeeded, tree⟩ :: w.history } v)
    (hmore : ∀ w v succeeded tree, mid w v → SameApartFrom [temporary] w.store tree →
      mid { w with
        store := tree
        history := ⟨.writeRecord temporary record, succeeded, tree⟩ :: w.history } v)
    (hplaced : ∀ w v tree, mid w v → SameApartFrom [temporary, path] w.store tree →
      tree.lookup path = some (.file (jsonBytes (record.toJson formatFloat))) →
      post () { w with
        store := tree
        history := ⟨.placeRecord temporary path record, true, tree⟩ :: w.history } v)
    (hrefused : ∀ w v, mid w v →
      mid { w with
        history := ⟨.placeRecord temporary path record, false, w.store⟩ :: w.history } v) :
    Triple faults inv
      (writeJsonAtomic formatFloat temporary path record : DiskProgram ρ RunError Unit)
      post (fun _ => mid) := by
  unfold writeJsonAtomic writeBytes
  -- the temporary file is created, written and then renamed over the record
  refine Triple.via (fun _ w v => mid w v ∧
    w.store.lookup temporary = some (.file (jsonBytes (record.toJson formatFloat)))) ?_
    fun _ => ?_
  · refine Triple.via (fun _ w v => mid w v ∧
      w.store.lookup temporary = some (.file [])) ?_ fun _ => ?_
    · refine Disk.triple_performAs (fun w v tree h happly => ?_) fun w v e h =>
        hfirst w v false w.store h (SameApartFrom.refl _ _)
      exact ⟨hfirst w v true tree h (sameApartFrom_apply happly),
        FileTree.lookup_createFile_self happly⟩
    · refine Disk.triple_performAs (fun w v tree h happly => ?_) fun w v e h =>
        hmore w v false w.store h.1 (SameApartFrom.refl _ _)
      obtain ⟨content, hcontent, hafter⟩ := FileTree.lookup_append_self happly
      obtain rfl : [] = content := by
        have hboth := h.2.symm.trans hcontent
        simpa using hboth
      exact ⟨hmore w v true tree h.1 (sameApartFrom_apply happly), hafter⟩
  -- the rename brings the whole content to the record's path
  · refine Disk.triple_performAs (fun w v tree h happly => ?_) fun w v e h => hrefused w v h.1
    obtain ⟨hmoved, -⟩ := FileTree.lookup_rename happly hapart.ne hapart.2
    exact hplaced w v tree h.1 (sameApartFrom_apply happly) (hmoved.trans h.2)

/-- What respects the two paths is kept by writing a record there. -/
theorem keeps_writeJsonAtomic {inv : DiskWorld → ρ → Prop}
    (hinv : ∀ v, Respects [temporary, path] fun w => inv w v) :
    Keeps faults inv
      (writeJsonAtomic formatFloat temporary path record : DiskProgram ρ RunError Unit) := by
  unfold writeJsonAtomic writeBytes
  refine Keeps.andThen (Keeps.andThen (Disk.keeps_performAs hinv rfl ?_) fun _ =>
    Disk.keeps_performAs hinv rfl ?_) fun _ => Disk.keeps_performAs hinv rfl ?_ <;>
  simp [FileOperation.scope]

end

/-! ## How a step fails -/

/-- Whether an error comes from a transition that is not allowed. -/
def RunError.isLifecycle : RunError → Bool
  | .lifecycle _ => true
  | .allocated _ _ _ source => source.isLifecycle
  | .parse _ | .resolution _ | .unsupportedCombination _ | .io _ _ | .evidence _
  | .publicationConflict _ => false

/-- The failure of an operation on the disk, right behind it. -/
def Stopped (error : RunError) (w : DiskWorld) : Prop :=
  error.isLifecycle = false ∧ ∃ attempt older, w.history = attempt :: older ∧
    attempt.succeeded = false

section

variable {ρ : Type} {faults : Faults} {formatFloat : FormatFloat}

/-- A program all of whose failures are failures of operations on the disk. -/
def Stops {α : Type} (faults : Faults) (p : DiskProgram ρ RunError α) : Prop :=
  Triple faults (fun _ _ => True) p (fun _ _ _ => True) fun error w _ => Stopped error w

theorem Stops.andThen {α β : Type} {p : DiskProgram ρ RunError α}
    {next : α → DiskProgram ρ RunError β} (hp : Stops faults p)
    (hnext : ∀ a, Stops faults (next a)) : Stops faults (p.andThen next) :=
  Triple.andThen hp hnext

theorem Stops.get : Stops faults (Program.get : DiskProgram ρ RunError ρ) :=
  fun _ _ _ => trivial

theorem Stops.performAs {label : Operation} {operation : FileOperation} {path : Bytes} :
    Stops faults (Disk.performAs label operation (.io path) : DiskProgram ρ RunError Unit) :=
  Disk.triple_performAs (fun _ _ _ _ _ => trivial) fun _ _ _ _ => ⟨rfl, _, _, rfl, rfl⟩

theorem Stops.writeBytes {label : FileOperation → Operation} {path : List FileName}
    {bytes : Bytes} : Stops faults (writeBytes label path bytes : DiskProgram ρ RunError Unit) :=
  Stops.andThen Stops.performAs fun _ => Stops.performAs

theorem Stops.writeJsonAtomic {temporary path : List FileName} {record : Record} :
    Stops faults
      (writeJsonAtomic formatFloat temporary path record : DiskProgram ρ RunError Unit) :=
  Stops.andThen Stops.writeBytes fun _ => Stops.performAs

theorem Stops.createDirectory {path : List FileName} :
    Stops faults (createDirectory path : DiskProgram ρ RunError Unit) :=
  Triple.forEach (fun _ _ _ _ => True) fun _ _ _ _ => Stops.performAs

theorem Stops.forEach {α : Type} {items : List α} {body : α → DiskProgram ρ RunError Unit}
    (hbody : ∀ item, Stops faults (body item)) : Stops faults (Program.forEach items body) :=
  Triple.forEach (fun _ _ _ _ => True) fun _ item _ _ => hbody item

/-- An invariant and the way a program fails. -/
theorem Triple.stops {α : Type} {pre : DiskWorld → ρ → Prop} {p : DiskProgram ρ RunError α}
    {post : α → DiskWorld → ρ → Prop} {failed : RunError → DiskWorld → ρ → Prop}
    (h : Triple faults pre p post failed) (hstops : Stops faults p) :
    Triple faults pre p post fun e w v => failed e w v ∧ Stopped e w :=
  (h.and hstops).conseq (fun _ _ hpre => ⟨hpre, trivial⟩) (fun _ _ _ hpost => hpost.1)
    fun _ _ _ hfailed => hfailed

end

/-! ## The records -/

section

variable {faults : Faults} {codec : Codec} {services : Services} {layout : Layout}
  {Q : Past → RunLocals → Prop}

/-- A write to the temporary file of a payload leaves the journal and the records. -/
theorem Coherent.written {disk : FileTree} {past : Past} {v : RunLocals}
    (h : Coherent layout disk past v) {file : StagedFile} {record : Record} {succeeded : Bool}
    {tree : FileTree} (hattempt : file ≠ .attempt)
    (hsame : SameApartFrom [layout.temporary file] disk tree) :
    Coherent layout tree (⟨.writeRecord (layout.temporary file) record, succeeded, tree⟩ :: past)
      v := by
  refine h.quiet ⟨_, succeeded, tree⟩ (Or.inr rfl) (Or.inr ⟨rfl, rfl⟩)
    (attempt?_eq_none fun hmem => ?_) fun other _ => hsame _ fun path hpath => ?_
  · exact layout.temporary_ne hattempt (List.mem_singleton.mp hmem).symm
  · exact List.mem_singleton.mp hpath ▸ layout.temporary_apart file other

/-- Writing `run.json` keeps the run coherent. -/
theorem keeps_writeRunRecord (hQ : Quietly layout Q) :
    Keeps faults (Along layout Q) (writeRunRecord codec layout) := by
  unfold writeRunRecord writePayload
  refine Triple.andThen Triple.getValue fun locals => ?_
  refine (triple_writeJsonAtomic (fun w v => v = locals ∧ Along layout Q w v)
    (fun w v => v = locals ∧ Along layout Q w v) (fun _ => Along layout Q)
    (layout.temporary_apart .run .run) ?_ ?_ ?_ ?_).conseq (fun _ _ h => h) (fun _ _ _ h => h)
    fun _ _ _ h => h.2
  · rintro w v succeeded tree ⟨hlocals, h⟩ hsame
    exact ⟨hlocals, h.1.written (by simp) hsame, hQ ⟨_, _, _⟩ _ _ h.2 (Or.inr rfl)⟩
  · rintro w v succeeded tree ⟨hlocals, h⟩ hsame
    exact ⟨hlocals, h.1.written (by simp) hsame, hQ ⟨_, _, _⟩ _ _ h.2 (Or.inr rfl)⟩
  · rintro w v tree ⟨rfl, h⟩ hsame hshown
    have hothers : ∀ file, file ≠ .run →
        tree.lookup (layout.path file) = w.store.lookup (layout.path file) := by
      intro file hne
      refine hsame _ fun path hpath => ?_
      simp only [List.mem_cons, List.not_mem_nil, or_false] at hpath
      rcases hpath with rfl | rfl
      · exact layout.temporary_apart .run file
      · exact layout.path_apart hne.symm
    refine ⟨h.1.extend ⟨_, true, tree⟩
      (h.1.journal.quiet _ (Or.inr rfl) (hothers .events (by simp)))
      (h.1.snapshot.placed rfl rfl (by simp [Operation.placedRun?]) hshown)
      (h.1.attempt.quiet ⟨_, true, tree⟩ rfl (Or.inr rfl) (hothers .attempt (by simp))
        (Or.inr rfl)), hQ ⟨_, _, _⟩ _ _ h.2 (Or.inr rfl)⟩
  · rintro w v ⟨hlocals, h⟩
    exact ⟨hlocals, h.1.quiet ⟨_, false, w.store⟩ (Or.inl rfl) (Or.inl rfl) rfl
      (fun _ _ => rfl), hQ ⟨_, _, _⟩ _ _ h.2 (Or.inl rfl)⟩

/-- The attempt record in memory has been replaced, which only happens to one that is not
terminal, or it is still the one written last. -/
def Replaced (layout : Layout) (Q : Past → RunLocals → Prop) (w : DiskWorld) (v : RunLocals) :
    Prop :=
  ∃ old, Coherent layout w.store w.history { v with attemptRecord := old } ∧
    (v.attemptRecord = old ∨ old.status.isTerminal = false) ∧ Q w.history v

theorem Along.replaced {w : DiskWorld} {v : RunLocals} (h : Along layout Q w v) :
    Replaced layout Q w v :=
  ⟨v.attemptRecord, h.1, Or.inl rfl, h.2⟩

/-- Writing `attempt.json` makes the record in memory the one written last. -/
theorem triple_writeAttemptRecord (hQ : Quietly layout Q) :
    Triple faults (Replaced layout Q) (writeAttemptRecord codec layout)
      (fun _ => Along layout Q) (fun _ => Along layout Q) := by
  unfold writeAttemptRecord writePayload
  refine Triple.andThen Triple.getValue fun locals => ?_
  -- the record is known from the first write on, before the rename puts it in place
  let written := fun (w : DiskWorld) v => v = locals ∧ Along layout Q w v ∧
    latestAttempt? layout w.history = some locals.attemptRecord
  have hwrite : ∀ (w : DiskWorld) succeeded tree, Replaced layout Q w locals →
      SameApartFrom [layout.temporary .attempt] w.store tree →
      written { w with
        store := tree
        history := ⟨.writeRecord (layout.temporary .attempt) (.attempt locals.attemptRecord),
          succeeded, tree⟩ :: w.history } locals := by
    rintro w succeeded tree ⟨old, h, hnew, hside⟩ hsame
    have hlookup : ∀ file, tree.lookup (layout.path file) = w.store.lookup (layout.path file) :=
      fun file => hsame _ fun path hpath =>
        List.mem_singleton.mp hpath ▸ layout.temporary_apart .attempt file
    have hknown : Operation.attempt? layout
        (.writeRecord (layout.temporary .attempt) (.attempt locals.attemptRecord)) =
          some locals.attemptRecord := by
      simp [Operation.attempt?]
    refine ⟨rfl, ⟨h.extend ⟨_, succeeded, tree⟩
      ((h.journal.quiet _ (Or.inr rfl) (hlookup _)).of_lifecycle rfl)
      ((h.snapshot.quiet _ (Or.inr rfl) (Or.inr rfl) (hlookup _)).annotated rfl rfl rfl)
      (h.attempt.written ⟨_, succeeded, tree⟩ hknown (Or.inr rfl) (hlookup _) rfl hnew),
      hQ ⟨_, _, _⟩ _ _ hside (Or.inr rfl)⟩, latestAttempt?_of_written hknown⟩
  refine (triple_writeJsonAtomic (fun w v => v = locals ∧ Replaced layout Q w v)
    written (fun _ => Along layout Q)
    (layout.temporary_apart .attempt .attempt) ?_ ?_ ?_ ?_).conseq (fun _ _ h => h)
    (fun _ _ _ h => h) fun _ _ _ h => h.2.1
  · rintro w v succeeded tree ⟨rfl, h⟩ hsame
    exact hwrite w succeeded tree h hsame
  · rintro w v succeeded tree ⟨rfl, h, -⟩ hsame
    exact hwrite w succeeded tree h.replaced hsame
  · rintro w v tree ⟨rfl, h, hknown⟩ hsame hshown
    have hothers : ∀ file, .attempt ≠ file →
        tree.lookup (layout.path file) = w.store.lookup (layout.path file) := by
      intro file hne
      refine hsame _ fun path hpath => ?_
      simp only [List.mem_cons, List.not_mem_nil, or_false] at hpath
      rcases hpath with rfl | rfl
      · exact layout.temporary_apart .attempt file
      · exact layout.path_apart hne
    exact ⟨h.1.extend ⟨_, true, tree⟩
      (h.1.journal.quiet _ (Or.inr rfl) (hothers .events (by simp)))
      (h.1.snapshot.quiet _ (Or.inr rfl) (Or.inr rfl) (hothers .run (by simp)))
      (h.1.attempt.placed hknown rfl rfl rfl (by simp [Operation.placedAttempt?]) hshown),
      hQ ⟨_, _, _⟩ _ _ h.2 (Or.inr rfl)⟩
  · rintro w v ⟨hlocals, h, hknown⟩
    exact ⟨hlocals, ⟨h.1.quiet ⟨_, false, w.store⟩ (Or.inl rfl) (Or.inl rfl) rfl
      (fun _ _ => rfl), hQ ⟨_, _, _⟩ _ _ h.2 (Or.inl rfl)⟩,
      (latestAttempt?_of_quiet rfl).trans hknown⟩

end

end Benchplane
