import Benchplane.Library.FaultyProgram
import Benchplane.Library.FileOperations
import Benchplane.Schema.Encoding

/-!
# The disk

The program's operations on the file system as attempts with labels.  The label
of a JSON write or append carries the record, so the history says what was
written where and not only which bytes.
-/

namespace Benchplane

open Library

/-- A record the program writes as JSON. -/
inductive Record where
  | plan (value : ResolvedExperiment)
  | run (value : RunRecord)
  | attempt (value : AttemptRecord)
  | event (value : LifecycleEvent)
  | measurement (value : MeasurementRecord)
  | provenance (value : AttemptProvenance)
  | resources (value : AttemptResources)
  | validity (value : ValidityResult)
  | summary (value : RunSummary)
  | manifest (value : EvidenceManifest)

def Record.toJson (formatFloat : FormatFloat) : Record → Json
  | .plan value => value.toJson formatFloat
  | .run value => value.toJson
  | .attempt value => value.toJson
  | .event value => value.toJson
  | .measurement value => value.toJson
  | .provenance value => value.toJson
  | .resources value => value.toJson
  | .validity value => value.toJson
  | .summary value => value.toJson
  | .manifest value => value.toJson

/-- An operation on the disk.  A record is written in two steps under one label and
then renamed into its place. -/
inductive Operation where
  | change (operation : FileOperation)
  | writeRecord (path : List FileName) (record : Record)
  | placeRecord (temporary path : List FileName) (record : Record)
  | appendRecord (path : List FileName) (record : Record)
  | read (path : List FileName)

/-- The paths an attempt may change. -/
def Operation.scope : Operation → List (List FileName)
  | .change operation => operation.scope
  | .writeRecord path _ | .appendRecord path _ => [path]
  | .placeRecord temporary path _ => [temporary, path]
  | .read _ => []

abbrev DiskWorld := World FileTree Operation

/-- A program on the disk with mutable variables `ρ`. -/
abbrev DiskProgram (ρ ε α : Type) := Program FileTree Operation ρ ε α

namespace Disk

variable {ρ ε α : Type}

/-- Perform a file operation under a label. -/
def performAs (label : Operation) (operation : FileOperation) (failure : IoError → ε) :
    DiskProgram ρ ε Unit :=
  Program.perform label failure fun tree =>
    match operation.apply tree with
    | .error e => .error (failure e)
    | .ok tree' => .ok ((), tree')

/-- Perform a file operation. -/
def change (operation : FileOperation) (failure : IoError → ε) : DiskProgram ρ ε Unit :=
  performAs (.change operation) operation failure

/-- Read from the disk. -/
def read (path : List FileName) (failure : IoError → ε) (look : FileTree → Except ε α) :
    DiskProgram ρ ε α :=
  Program.perform (.read path) failure fun tree =>
    match look tree with
    | .error e => .error e
    | .ok value => .ok (value, tree)

/-- `Path::exists`: a failing look counts as absence. -/
def pathExists (path : List FileName) : DiskProgram ρ ε Bool :=
  (read path id fun tree => .ok (tree.exists path)).recover fun _ => Program.ok false

/-- `fs::create_dir_all`, one directory after the other. -/
def createDirAll (path : List FileName) (failure : IoError → ε) : DiskProgram ρ ε Unit :=
  Program.forEach path.inits.tail fun ancestor => change (.ensureDirectory ancestor) failure

end Disk

/-! ## Rules -/

namespace Disk

variable {ρ ε α : Type} {faults : Faults} {pre : DiskWorld → ρ → Prop}
  {failed : ε → DiskWorld → ρ → Prop}

/-- A file operation goes through or leaves the disk as it was. -/
theorem triple_performAs {label : Operation} {operation : FileOperation}
    {failure : IoError → ε} {post : Unit → DiskWorld → ρ → Prop}
    (hok : ∀ w v tree, pre w v → operation.apply w.store = .ok tree →
      post () { w with store := tree, history := ⟨label, true, tree⟩ :: w.history } v)
    (hfailed : ∀ w v e, pre w v →
      failed (failure e) { w with history := ⟨label, false, w.store⟩ :: w.history } v) :
    Triple faults pre (performAs label operation failure : DiskProgram ρ ε Unit) post failed := by
  refine Triple.perform (fun w v a tree h hop => ?_) (fun w v fault h => hfailed w v fault h)
    fun w v e h hop => ?_
  · cases happly : operation.apply w.store with
    | error e => simp [happly] at hop
    | ok tree' =>
        simp only [happly, Except.ok.injEq, Prod.mk.injEq, true_and] at hop
        exact hop ▸ hok w v tree' h happly
  · cases happly : operation.apply w.store with
    | error cause =>
        simp only [happly, Except.error.injEq] at hop
        exact hop ▸ hfailed w v cause h
    | ok tree' => simp [happly] at hop

/-- A read leaves the disk as it was. -/
theorem triple_read {path : List FileName} {failure : IoError → ε}
    {look : FileTree → Except ε α} {post : α → DiskWorld → ρ → Prop}
    (hok : ∀ w v a, pre w v → look w.store = .ok a →
      post a { w with history := ⟨.read path, true, w.store⟩ :: w.history } v)
    (hfault : ∀ w v fault, pre w v →
      failed (failure fault) { w with history := ⟨.read path, false, w.store⟩ :: w.history } v)
    (herror : ∀ w v e, pre w v → look w.store = .error e →
      failed e { w with history := ⟨.read path, false, w.store⟩ :: w.history } v) :
    Triple faults pre (read path failure look : DiskProgram ρ ε α) post failed := by
  refine Triple.perform (fun w v a tree h hop => ?_) hfault fun w v e h hop => ?_
  · cases hlook : look w.store with
    | error e => simp [hlook] at hop
    | ok value =>
        simp only [hlook, Except.ok.injEq, Prod.mk.injEq] at hop
        obtain ⟨rfl, rfl⟩ := hop
        exact hok w v value h hlook
  · cases hlook : look w.store with
    | error cause =>
        simp only [hlook, Except.error.injEq] at hop
        exact hop ▸ herror w v cause h hlook
    | ok value => simp [hlook] at hop

end Disk

/-- An invariant of the world that survives every attempt on paths in `scope`. -/
structure Respects (scope : List (List FileName)) (inv : DiskWorld → Prop) : Prop where
  performed : ∀ (w : DiskWorld) (label : Operation) (operation : FileOperation) (tree : FileTree),
    inv w → label.scope = operation.scope → (∀ path ∈ operation.scope, path ∈ scope) →
    operation.apply w.store = .ok tree →
    inv { w with store := tree, history := ⟨label, true, tree⟩ :: w.history }
  refused : ∀ (w : DiskWorld) (label : Operation), inv w → (∀ path ∈ label.scope, path ∈ scope) →
    inv { w with history := ⟨label, false, w.store⟩ :: w.history }
  read : ∀ w path, inv w →
    inv { w with history := ⟨.read path, true, w.store⟩ :: w.history }
  clock : ∀ w n, inv w → inv { w with clockReadings := n }

theorem Respects.mono {scope smaller : List (List FileName)} {inv : DiskWorld → Prop}
    (h : Respects scope inv) (hsub : ∀ path ∈ smaller, path ∈ scope) : Respects smaller inv where
  performed w label operation tree hw hlabel hscope :=
    h.performed w label operation tree hw hlabel fun path hpath => hsub path (hscope path hpath)
  refused w label hw hscope := h.refused w label hw fun path hpath => hsub path (hscope path hpath)
  read := h.read
  clock := h.clock

namespace Disk

variable {ρ ε α : Type} {faults : Faults} {scope : List (List FileName)}
  {inv : DiskWorld → ρ → Prop}

theorem keeps_performAs (hinv : ∀ v, Respects scope fun w => inv w v) {label : Operation}
    {operation : FileOperation} (hlabel : label.scope = operation.scope)
    (hscope : ∀ path ∈ operation.scope, path ∈ scope) {failure : IoError → ε} :
    Keeps faults inv (performAs label operation failure : DiskProgram ρ ε Unit) :=
  triple_performAs
    (fun w v tree h happly => (hinv v).performed w label operation tree h hlabel hscope happly)
    (fun w v _ h => (hinv v).refused w label h (hlabel ▸ hscope))

theorem keeps_change (hinv : ∀ v, Respects scope fun w => inv w v) {operation : FileOperation}
    (hscope : ∀ path ∈ operation.scope, path ∈ scope) {failure : IoError → ε} :
    Keeps faults inv (change operation failure : DiskProgram ρ ε Unit) :=
  keeps_performAs hinv rfl hscope

theorem keeps_read (hinv : ∀ v, Respects scope fun w => inv w v) {path : List FileName}
    {failure : IoError → ε} {look : FileTree → Except ε α} :
    Keeps faults inv (read path failure look : DiskProgram ρ ε α) :=
  have hrefused : ∀ (w : DiskWorld) v, inv w v →
      inv { w with history := ⟨.read path, false, w.store⟩ :: w.history } v := fun w v h =>
    (hinv v).refused w (.read path) h fun _ hpath => absurd hpath List.not_mem_nil
  triple_read (fun w v _ h _ => (hinv v).read w path h) (fun w v _ h => hrefused w v h)
    (fun w v _ h _ => hrefused w v h)

/-- Looking whether a path exists never fails. -/
theorem triple_pathExists (hinv : ∀ v, Respects scope fun w => inv w v) {path : List FileName}
    {failed : ε → DiskWorld → ρ → Prop} :
    Triple faults inv (pathExists path : DiskProgram ρ ε Bool) (fun _ => inv) failed :=
  Triple.recover (keeps_read hinv) fun _ _ _ h => h

theorem keeps_now (hinv : ∀ v, Respects scope fun w => inv w v) {clock : Nat → String} :
    Keeps faults inv (Program.now clock : DiskProgram ρ ε String) :=
  Keeps.now fun w v h => (hinv v).clock w _ h

end Disk

/-- With nothing in scope only reads go through. -/
theorem respects_nil (inv : FileTree → Prop) : Respects [] fun w => inv w.store where
  performed w label operation tree _ _ hscope _ := by
    have hempty : operation.scope = [] :=
      List.eq_nil_iff_forall_not_mem.mpr fun path hpath => List.not_mem_nil (hscope path hpath)
    cases operation <;> simp [FileOperation.scope] at hempty
  refused _ _ h _ := h
  read _ _ h := h
  clock _ _ h := h

/-- What holds of the nodes away from the scope goes on to hold. -/
theorem respects_frame {scope : List (List FileName)} {others : Set (List FileName)}
    (hapart : ∀ other ∈ others, ∀ path ∈ scope, ¬ path <+: other ∧ ¬ other <+: path)
    (inv : FileTree → Prop)
    (hinv : ∀ disk disk', (∀ other ∈ others, disk'.lookup other = disk.lookup other) →
      inv disk → inv disk') :
    Respects scope fun w => inv w.store where
  performed w _ _ tree h _ hscope happly :=
    hinv w.store tree (fun other hother => FileTree.lookup_apply_frame happly
      fun path hpath => hapart other hother path (hscope path hpath)) h
  refused _ _ h _ := h
  read _ _ h := h
  clock _ _ h := h

end Benchplane
