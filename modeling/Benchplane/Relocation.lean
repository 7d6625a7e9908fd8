import Benchplane.Comparison.Compatibility

/-!
# Moving a bundle

The verdict on a bundle depends on the directory and on its name, not on where it is: the
same directory under the same name at another path, or on another disk, is accepted with
the same records or refused for the same reason.  A comparison names the two paths and
depends on them in nothing else.
-/

namespace Benchplane

open Library Library.Panicking

/-! ## Results up to a view of the failure -/

section

variable {ε δ α β : Type} {view : ε → δ}

/-- Two sequences agree when their first parts do, and their second parts behind every value. -/
theorem mapFailure_bind_congr {x x' : Except ε α} {f f' : α → Except ε β}
    (hfirst : mapFailure view x = mapFailure view x')
    (hsecond : ∀ a, mapFailure view (f a) = mapFailure view (f' a)) :
    mapFailure view (x >>= f) = mapFailure view (x' >>= f') := by
  cases x with
  | error e =>
      cases x' with
      | error e' => exact congrArg Except.error (Except.error.inj hfirst)
      | ok a' => contradiction
  | ok a =>
      cases x' with
      | error e' => contradiction
      | ok a' =>
          obtain rfl : a = a' := Except.ok.inj hfirst
          exact hsecond a

theorem map_bind_eq {γ : Type} (x : Except ε α) (f : α → Except ε β) (g : β → γ) :
    Except.map g (x >>= f) = x >>= fun a => Except.map g (f a) := by
  cases x <;> rfl

/-- Two loops agree when their steps do. -/
theorem mapFailure_foldlM_congr {step step' : β → α → Except ε β}
    (hstep : ∀ b a, mapFailure view (step b a) = mapFailure view (step' b a)) (items : List α)
    (b : β) :
    mapFailure view (items.foldlM step b) = mapFailure view (items.foldlM step' b) := by
  induction items generalizing b with
  | nil => rfl
  | cons item rest ih =>
      rw [List.foldlM_cons, List.foldlM_cons]
      exact mapFailure_bind_congr (hstep b item) ih

end

/-! ## The verdict on a directory -/

/-- An error without the path at which a read failed, or at which no directory was. -/
def EvidenceError.placeless : EvidenceError → EvidenceError
  | .read _ source => .read [] source
  | .bundleRootNotDirectory _ => .bundleRootNotDirectory []
  | error => error

/-- A result without the path of its failure. -/
def placeless {α : Type} (result : Except EvidenceError α) : Except EvidenceError α :=
  mapFailure EvidenceError.placeless result

section

variable {codec : Codec} {hash : Bytes → Digest} {root root' : BundleRoot}

theorem placeless_checkedRegularPath (htree : root.tree = root'.tree) (relative : Bytes)
    (display : String) :
    placeless (checkedRegularPath root relative display) =
      placeless (checkedRegularPath root' relative display) := by
  unfold checkedRegularPath
  rw [htree]
  cases entryNames relative with
  | none => rfl
  | some names =>
      dsimp only
      cases root'.tree.lookup names with
      | none => rfl
      | some node => cases node <;> rfl

theorem placeless_readFile (htree : root.tree = root'.tree) (names : List FileName) :
    placeless (readFile root names) = placeless (readFile root' names) := by
  unfold readFile
  rw [htree]
  cases root'.tree.lookup names with
  | none => rfl
  | some node => cases node <;> rfl

theorem placeless_hashRegularFile (htree : root.tree = root'.tree) (relative : Bytes)
    (display : String) (limit : Option Nat) :
    placeless (hashRegularFile hash root relative display limit) =
      placeless (hashRegularFile hash root' relative display limit) := by
  unfold hashRegularFile
  apply mapFailure_bind_congr (placeless_checkedRegularPath htree relative display)
  intro names
  exact mapFailure_bind_congr (placeless_readFile htree names) fun content => rfl

theorem placeless_checkEntry (htree : root.tree = root'.tree) (payloads : SortedMap String Bytes)
    (progress : Progress) (line : String) :
    placeless (checkEntry hash root payloads progress line) =
      placeless (checkEntry hash root' payloads progress line) := by
  unfold checkEntry
  apply mapFailure_bind_congr rfl
  intro _
  apply mapFailure_bind_congr rfl
  intro entry
  apply mapFailure_bind_congr rfl
  intro _
  apply mapFailure_bind_congr rfl
  intro _
  exact mapFailure_bind_congr (placeless_hashRegularFile htree _ _ _) fun hashed => rfl

theorem placeless_checkLine (htree : root.tree = root'.tree) (payloads : SortedMap String Bytes)
    (progress : Progress) (line : Bytes) :
    placeless (checkLine hash root payloads progress line) =
      placeless (checkLine hash root' payloads progress line) := by
  unfold checkLine
  apply mapFailure_bind_congr rfl
  intro text
  apply mapFailure_bind_congr rfl
  intro _
  apply mapFailure_bind_congr rfl
  intro _
  by_cases hblank : isBlank (trimEndMatches ['\r', '\n'] text) = true
  · rw [if_pos hblank, if_pos hblank]
  · rw [if_neg hblank, if_neg hblank]
    exact placeless_checkEntry htree payloads _ _

theorem placeless_readInventory (htree : root.tree = root'.tree) :
    placeless (readInventory hash root) = placeless (readInventory hash root') := by
  unfold readInventory
  have hwalk : gatherPayloadPaths root = gatherPayloadPaths root' := by
    unfold gatherPayloadPaths
    rw [htree]
  rw [hwalk]
  apply mapFailure_bind_congr rfl
  intro payloads
  apply mapFailure_bind_congr (placeless_checkedRegularPath htree _ _)
  intro names
  apply mapFailure_bind_congr (placeless_readFile htree names)
  intro content
  apply mapFailure_bind_congr rfl
  intro _
  exact mapFailure_bind_congr
    (mapFailure_foldlM_congr (placeless_checkLine htree payloads) _ _) fun progress => rfl

theorem placeless_validateMeasurements (htree : root.tree = root'.tree) (digest : String)
    (plan : ResolvedExperiment) (status : RunState) :
    placeless (validateMeasurements codec root digest plan status) =
      placeless (validateMeasurements codec root' digest plan status) := by
  unfold validateMeasurements
  apply mapFailure_bind_congr (placeless_checkedRegularPath htree _ _)
  intro names
  exact mapFailure_bind_congr (placeless_readFile htree names) fun content => rfl

/-- The bundle as it is read at another root. -/
def VerifiedEvidenceBundle.movedTo (root : BundleRoot) (bundle : VerifiedEvidenceBundle) :
    VerifiedEvidenceBundle :=
  { bundle with root := root }

theorem placeless_validateRecordConsistency (htree : root.tree = root'.tree)
    (hname : root.fileName = root'.fileName) (manifest : TerminalManifest) (records : Records)
    (digests : List (String × String)) :
    placeless ((validateRecordConsistency codec root manifest records digests).map
        (·.movedTo root')) =
      placeless (validateRecordConsistency codec root' manifest records digests) := by
  unfold validateRecordConsistency
  simp only [hname, map_bind_eq]
  apply mapFailure_bind_congr rfl
  intro _
  apply mapFailure_bind_congr rfl
  intro plan
  apply mapFailure_bind_congr rfl
  intro _
  apply mapFailure_bind_congr rfl
  intro _
  apply mapFailure_bind_congr rfl
  intro digest
  -- the measurements are the only payload that is read a second time
  apply mapFailure_bind_congr (placeless_validateMeasurements htree digest plan _)
  intro validation
  rfl

/-- What is read at a root depends on the directory there and on its name. -/
theorem placeless_verifyEvidenceBundleData (htree : root.tree = root'.tree)
    (hname : root.fileName = root'.fileName) :
    placeless ((verifyEvidenceBundleData codec root).map (·.movedTo root')) =
      placeless (verifyEvidenceBundleData codec root') := by
  unfold verifyEvidenceBundleData
  simp only [map_bind_eq]
  apply mapFailure_bind_congr (placeless_readInventory htree)
  intro inventory
  apply mapFailure_bind_congr rfl
  intro bytes
  apply mapFailure_bind_congr rfl
  intro _
  apply mapFailure_bind_congr rfl
  intro manifest
  apply mapFailure_bind_congr rfl
  intro terminal
  apply mapFailure_bind_congr rfl
  intro _
  exact placeless_validateRecordConsistency htree hname terminal _ _

end

section

variable {codec : Codec} {path path' : List FileName} {disk disk' : FileTree}

/-- What a path without a directory is refused for. -/
def notDirectory : Option Node → EvidenceError
  | none => .read [] .notFound
  | some (.symlink _) => .read [] (.other "symbolic link")
  | some _ => .bundleRootNotDirectory []

theorem placeless_canonicalBundleRoot (h : ∀ d, disk.lookup path ≠ some (.directory d)) :
    ∃ error, canonicalBundleRoot path disk = .error error ∧
      error.placeless = notDirectory (disk.lookup path) := by
  unfold canonicalBundleRoot
  split
  · rename_i hnone
    exact ⟨_, rfl, by rw [hnone]; rfl⟩
  · rename_i d hd
    exact absurd hd (h d)
  · rename_i resolves hlink
    exact ⟨_, rfl, by rw [hlink]; rfl⟩
  · rename_i content hfile
    exact ⟨_, rfl, by rw [hfile]; rfl⟩
  · rename_i hspecial
    exact ⟨_, rfl, by rw [hspecial]; rfl⟩

/-- The same directory under the same name is read as the same bundle at two roots, or
refused for the same reason. -/
theorem readBundle_relocated (hnode : disk.lookup path = disk'.lookup path')
    (hname : path.getLast? = path'.getLast?) :
    (∃ bundle root, (canonicalBundleRoot path disk >>= verifyEvidenceBundleData codec) =
        .ok bundle ∧
      (canonicalBundleRoot path' disk' >>= verifyEvidenceBundleData codec) =
        .ok (bundle.movedTo root)) ∨
    ∃ error error', (canonicalBundleRoot path disk >>= verifyEvidenceBundleData codec) =
        .error error ∧
      (canonicalBundleRoot path' disk' >>= verifyEvidenceBundleData codec) = .error error' ∧
      error.placeless = error'.placeless := by
  by_cases hdirectory : ∃ d, disk.lookup path = some (.directory d)
  · obtain ⟨d, hd⟩ := hdirectory
    obtain ⟨root, hroot, htree⟩ := exists_canonicalBundleRoot hd
    obtain ⟨root', hroot', htree'⟩ := exists_canonicalBundleRoot (hnode.symm.trans hd)
    obtain ⟨rfl, -⟩ := canonicalBundleRoot_eq_ok hroot
    obtain ⟨rfl, -⟩ := canonicalBundleRoot_eq_ok hroot'
    have hfileName : root.fileName = root'.fileName := by
      unfold BundleRoot.fileName
      rw [hname]
    have hsame : placeless ((verifyEvidenceBundleData codec root).map (·.movedTo root')) =
        placeless (verifyEvidenceBundleData codec root') :=
      placeless_verifyEvidenceBundleData (htree.trans htree'.symm) hfileName
    rw [hroot, hroot']
    show (∃ bundle root, verifyEvidenceBundleData codec _ = _ ∧
        verifyEvidenceBundleData codec root' = _) ∨
      ∃ error error', verifyEvidenceBundleData codec _ = _ ∧
        verifyEvidenceBundleData codec root' = _ ∧ _
    cases hread : verifyEvidenceBundleData codec root with
    | error error =>
        cases hread' : verifyEvidenceBundleData codec root' with
        | error error' =>
            rw [hread, hread'] at hsame
            exact Or.inr ⟨error, error', rfl, rfl, Except.error.inj hsame⟩
        | ok bundle' =>
            rw [hread, hread'] at hsame
            contradiction
    | ok bundle =>
        cases hread' : verifyEvidenceBundleData codec root' with
        | error error' =>
            rw [hread, hread'] at hsame
            contradiction
        | ok bundle' =>
            rw [hread, hread'] at hsame
            obtain rfl : bundle.movedTo root' = bundle' := Except.ok.inj hsame
            exact Or.inl ⟨bundle, root', rfl, rfl⟩
  · have hnone : ∀ d, disk.lookup path ≠ some (.directory d) := fun d hd => hdirectory ⟨d, hd⟩
    obtain ⟨error, herror, hrefused⟩ := placeless_canonicalBundleRoot hnone
    obtain ⟨error', herror', hrefused'⟩ := placeless_canonicalBundleRoot (hnode ▸ hnone)
    rw [herror, herror']
    exact Or.inr ⟨error, error', rfl, rfl, hrefused.trans (hnode ▸ hrefused'.symm)⟩

end

theorem verifyEvidenceBundle_eq_map (codec : Codec) (path : List FileName) (disk : FileTree) :
    verifyEvidenceBundle codec path disk =
      (canonicalBundleRoot path disk >>= verifyEvidenceBundleData codec).map
        (·.manifest.toEvidenceManifest) := by
  rw [verifyEvidenceBundle, map_bind_eq]
  cases canonicalBundleRoot path disk <;> rfl

def ComparisonError.placeless : ComparisonError → ComparisonError
  | .invalidEvidence role source => .invalidEvidence role source.placeless
  | error => error

namespace SamplePair

end SamplePair

end Benchplane
