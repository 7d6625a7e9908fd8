import Benchplane.Cli.Reports
import Benchplane.Relocation
import Benchplane.Run.Footprint
import Benchplane.Run.Reproducible

/-!
# The archive of published bundles

A session is a sequence of commands on one disk, each of them on its own surroundings and each
of them possibly stopped on its way.  Published bundles are an archive: a session adds to
them, and leaves what has been published as the verifier has accepted it.
-/

namespace Benchplane

open Library

/-! ## Sessions -/

/-- A command takes the disk to where it ends, or to where it is stopped on its way. -/
inductive SessionStep (codec : Codec) (command : Command) (disk : FileTree) : FileTree → Prop where
  | ended {surroundings : Surroundings} {takes : Output → Nat → Bool} {code : UInt8}
      {process : Process}
      (h : execute codec surroundings command (.facing takes disk) = some (code, process)) :
      SessionStep codec command disk process.disk
  | stopped {surroundings : Surroundings} {takes : Output → Nat → Bool} {code : UInt8}
      {process : Process} {tree : FileTree}
      (h : execute codec surroundings command (.facing takes disk) = some (code, process))
      (hpassed : tree ∈ process.passed) : SessionStep codec command disk tree

/-- The commands one after the other. -/
inductive Session (codec : Codec) : List Command → FileTree → FileTree → Prop where
  | nil (disk : FileTree) : Session codec [] disk disk
  | cons {command : Command} {rest : List Command} {disk middle tree : FileTree}
      (hstep : SessionStep codec command disk middle) (hrest : Session codec rest middle tree) :
      Session codec (command :: rest) disk tree

/-- The output root of a command does not lie in a directory, and the directory is none of
the two that a run makes there. -/
def Command.Spares (path : List FileName) : Command → Prop
  | .run _ outputRoot _ => ∀ runId : RunId,
      ¬ path <+: (⟨outputRoot, runId⟩ : Layout).stagingParent ∧
        ¬ path <+: (⟨outputRoot, runId⟩ : Layout).runsParent
  | _ => True

section

variable {codec : Codec} {surroundings : Surroundings} {path outputRoot : List FileName}
  {json : Bool} {process ended : Process} {code : UInt8}

theorem runOn_ne_panic {services : Services} {bytes : Bytes} {faults : Faults} {disk : FileTree} :
    (runOn codec services outputRoot bytes faults disk).outcome ≠ .panic := by
  intro hpanic
  have hmeets := meets_runOn faults codec services outputRoot bytes disk
  unfold Ended.Meets at hmeets
  rw [hpanic] at hmeets
  exact hmeets

/-- `run` has left the disk alone, or it has left it as the run has. -/
theorem runCommand_cases
    (h : runCommand codec surroundings path outputRoot json process = some (code, ended)) :
    (code = exitInternal ∧ ended.disk = process.disk ∧ ended.passed = process.passed) ∨
    ∃ bytes, ended.disk =
        (surroundings.run codec outputRoot bytes process.disk).world.store ∧
      ended.passed =
        (surroundings.run codec outputRoot bytes process.disk).world.history.map Attempt.after ++
          process.passed ∧
      ((∃ result, (surroundings.run codec outputRoot bytes process.disk).outcome = .ok result ∧
        code = resultExitCode result) ∨
      ∃ error, (surroundings.run codec outputRoot bytes process.disk).outcome = .error error ∧
        code = errorExitCode error) := by
  cases hcontent : contentAt surroundings path process.disk with
  | error error =>
      rw [runCommand_of_unread hcontent] at h
      obtain ⟨rfl, rfl⟩ := of_conclude_eq_some h
      exact Or.inl ⟨rfl, rfl, rfl⟩
  | ok bytes =>
      -- what has been read is run, whatever comes of it
      refine Or.inr ⟨bytes, ?_⟩
      cases houtcome : (surroundings.run codec outputRoot bytes process.disk).outcome with
      | panic => exact absurd houtcome runOn_ne_panic
      | ok result =>
          obtain ⟨line, rest, hrun⟩ := @runCommand_of_result codec surroundings path outputRoot
            json process.disk bytes result hcontent houtcome
          rw [hrun process rfl] at h
          obtain ⟨rfl, rfl⟩ := of_conclude_eq_some h
          exact ⟨rfl, rfl, Or.inl ⟨result, rfl, rfl⟩⟩
      | error error =>
          rw [runCommand_of_error hcontent houtcome] at h
          obtain ⟨rfl, rfl⟩ := of_conclude_eq_some h
          exact ⟨rfl, rfl, Or.inr ⟨error, rfl, rfl⟩⟩

/-- A step of a session is made of moves of one run, or changes nothing. -/
theorem SessionStep.moves {command : Command} {disk tree : FileTree}
    (h : SessionStep codec command disk tree) :
    tree = disk ∨ ∃ experiment json layout stage,
      command = .run experiment layout.outputRoot json ∧ RunMoves layout disk stage tree := by
  by_cases hother : ∀ experiment outputRoot json, command ≠ .run experiment outputRoot json
  · -- the other commands only tell
    cases h with
    | ended h => exact Or.inl ((tellsOnly_execute hother _).disk_eq h).1
    | stopped h hpassed =>
        rw [((tellsOnly_execute hother _).disk_eq h).2] at hpassed
        contradiction
  · push Not at hother
    obtain ⟨experiment, outputRoot, json, rfl⟩ := hother
    cases h with
    | @ended surroundings takes code process h =>
        rcases runCommand_cases h with ⟨-, hdisk, -⟩ | ⟨bytes, hdisk, -, -⟩
        · exact Or.inl hdisk
        · obtain ⟨stage, htraced⟩ := traced_runOn surroundings.faults codec
            surroundings.services outputRoot bytes disk
          rw [hdisk]
          exact Or.inr ⟨experiment, json, surroundings.services.layout outputRoot, stage, rfl,
            htraced.now⟩
    -- a command that is stopped leaves a disk that its run has been through
    | @stopped surroundings takes code process tree h hpassed =>
        rcases runCommand_cases h with ⟨-, -, hnone⟩ | ⟨bytes, -, hall, -⟩
        · rw [hnone] at hpassed
          contradiction
        · obtain ⟨stage, htraced⟩ := traced_runOn surroundings.faults codec
            surroundings.services outputRoot bytes disk
          rw [hall] at hpassed
          rcases List.mem_append.mp hpassed with hafter | hbefore
          · obtain ⟨attempt, hattempt, rfl⟩ := List.mem_map.mp hafter
            obtain ⟨earlier, hmoves⟩ := htraced.past attempt hattempt
            exact Or.inr ⟨experiment, json, surroundings.services.layout outputRoot, earlier, rfl,
              hmoves⟩
          · contradiction

theorem SessionStep.grows {command : Command} {disk tree : FileTree}
    (h : SessionStep codec command disk tree) : disk.Grows tree := by
  rcases h.moves with rfl | ⟨experiment, json, layout, stage, -, hmoves⟩
  · exact FileTree.Grows.refl _
  · exact hmoves.grows

theorem SessionStep.keeps {command : Command} {disk tree : FileTree} {d : Directory}
    {name : FileName} {child : Node} (h : SessionStep codec command disk tree)
    (hspares : command.Spares path) (hd : disk.lookup path = some (.directory d))
    (hchild : d.find? name = some child) : tree.lookup path = some (.directory d) := by
  rcases h.moves with rfl | ⟨experiment, json, layout, stage, rfl, hmoves⟩
  · exact hd
  · obtain ⟨hstaging, hruns⟩ := hspares layout.runId
    exact hmoves.keeps_directory hd hchild hstaging hruns

/-! ## Whole sessions -/

/-- A session only adds. -/
theorem Session.grows {commands : List Command} {disk tree : FileTree}
    (h : Session codec commands disk tree) : disk.Grows tree := by
  induction h with
  | nil disk => exact FileTree.Grows.refl disk
  | cons hstep hrest ih => exact hstep.grows.trans ih

/-- A directory with something in it outlasts the session that spares it. -/
theorem Session.keeps {commands : List Command} {disk tree : FileTree} {d : Directory}
    {name : FileName} {child : Node} (h : Session codec commands disk tree)
    (hspares : ∀ command ∈ commands, command.Spares path)
    (hd : disk.lookup path = some (.directory d)) (hchild : d.find? name = some child) :
    tree.lookup path = some (.directory d) := by
  induction h with
  | nil disk => exact hd
  | cons hstep hrest ih =>
      have hmiddle := hstep.keeps (hspares _ List.mem_cons_self) hd hchild
      exact ih (fun other hother => hspares other (List.mem_cons_of_mem _ hother)) hmiddle

/-! ## Verified bundles -/

/-- What the verifier accepts is shown, where it can be read. -/
theorem verifyCommand_of_verified {manifest : EvidenceManifest}
    (hreads : surroundings.reads 0 = none)
    (hverified : verifyEvidenceBundle codec path process.disk = .ok manifest) :
    verifyCommand codec surroundings path process =
      report exitSuccess [verifiedLine manifest] process := by
  unfold verifyCommand
  rw [get_bind]
  simp only [hreads, hverified]
  rw [(prints_println _).report]

/-- A verified bundle is a directory with the manifest in it that the verifier returns. -/
theorem exists_manifest_of_verified {disk : FileTree} {manifest : EvidenceManifest}
    (h : verifyEvidenceBundle codec path disk = .ok manifest) :
    ∃ d bytes, disk.lookup path = some (.directory d) ∧
      d.lookup StagedFile.manifest.path = some (.file bytes) ∧
      codec.manifest bytes = .ok manifest := by
  simp only [verifyEvidenceBundle, bind_eq_ok_iff, pure_eq_ok_iff] at h
  obtain ⟨root, hroot, bundle, hbundle, rfl⟩ := h
  obtain ⟨-, hd⟩ := canonicalBundleRoot_eq_ok hroot
  obtain ⟨records, digests, terminal, -, ⟨bytes, manifest, hfile, hmanifest, hterminal⟩,
    hconsistent⟩ := verifyEvidenceBundleData_eq_ok hbundle
  simp only [validateRecordConsistency, bind_eq_ok_iff, pure_eq_ok_iff] at hconsistent
  obtain ⟨-, -, plan, -, ⟨⟩, hplan, -, -, digest, -, validation, hvalidation, -, -, -, -, -, -, -,
    -, provenance, hprovenance, resources, -, -, -, -, -, -, -, -, -, -, -, -, -, rfl⟩ :=
    hconsistent
  obtain ⟨rfl, -⟩ := validateManifest_eq_ok hterminal
  exact ⟨root.tree, bytes, hd, (root.fileAt_display .manifest).mp hfile, hmanifest⟩

/-- The same directory under the same name is verified as before. -/
theorem verified_of_relocated {disk disk' : FileTree} {path' : List FileName}
    {manifest : EvidenceManifest} (hverified : verifyEvidenceBundle codec path disk = .ok manifest)
    (hnode : disk.lookup path = disk'.lookup path') (hname : path.getLast? = path'.getLast?) :
    verifyEvidenceBundle codec path' disk' = .ok manifest := by
  rw [verifyEvidenceBundle_eq_map] at hverified ⊢
  rcases @readBundle_relocated codec _ _ _ _ hnode hname with
    ⟨bundle, root, hread, hread'⟩ | ⟨error, error', hread, hread', -⟩
  · rw [hread] at hverified
    rw [hread']
    exact hverified
  · rw [hread] at hverified
    contradiction

/-- A verified bundle stays verified. -/
theorem Session.keeps_verified {commands : List Command} {disk tree : FileTree}
    {manifest : EvidenceManifest} (h : Session codec commands disk tree)
    (hspares : ∀ command ∈ commands, command.Spares path)
    (hverified : verifyEvidenceBundle codec path disk = .ok manifest) :
    verifyEvidenceBundle codec path tree = .ok manifest := by
  obtain ⟨d, bytes, hd, hmanifest, -⟩ := exists_manifest_of_verified hverified
  cases hchild : d.find? StagedFile.manifest.name with
  | none =>
      have hnone : d.lookup StagedFile.manifest.path = none := by
        show (Node.directory d).lookup [StagedFile.manifest.name] = none
        simp [Node.lookup, hchild]
      rw [hnone] at hmanifest
      contradiction
  | some child =>
      have hkept := h.keeps hspares hd hchild
      exact verified_of_relocated hverified (hd.trans hkept.symm) rfl

end

/-! ## What a run has published -/

/-- The two codes that tell a state apart. -/
theorem resultExitCode_iff {result : RunResult} (h : result.runState.isTerminal = true) :
    (resultExitCode result = exitSuccess ↔
      result.runState = .succeeded ∧ result.validityStatus = .valid) ∧
    (resultExitCode result = exitOperationalFailure ↔
      result.runState = .failed ∨ result.runState = .interrupted) := by
  unfold resultExitCode
  cases hstate : result.runState with
  | succeeded => cases hvalidity : result.validityStatus <;> decide
  | failed => simp [exitOperationalFailure, exitSuccess]
  | interrupted => simp [exitOperationalFailure, exitSuccess]
  | created => rw [hstate] at h; contradiction
  | preparing => rw [hstate] at h; contradiction
  | running => rw [hstate] at h; contradiction
  | collecting => rw [hstate] at h; contradiction
  | finalizing => rw [hstate] at h; contradiction

/-- The verifier accepts what a run has published with a manifest that tells of its result. -/
theorem verified_of_published {codec : Codec} {layout : Layout} {result : RunResult}
    {d : Directory} {w : DiskWorld}
    (hreads : ∀ manifest : EvidenceManifest,
      codec.manifest (jsonBytes manifest.toJson) = .ok manifest)
    (h : Published codec layout result d w) :
    ∃ manifest, verifyEvidenceBundle codec layout.finalPath w.store = .ok manifest ∧
      result.runId = manifest.runId ∧ result.runState = manifest.runStatus ∧
      result.validityStatus = manifest.validityStatus := by
  obtain ⟨look, -, -, hstaging, manifest, hverified⟩ := h.verified
  obtain ⟨d', bytes, hd', hfile, hmanifest⟩ := exists_manifest_of_verified hverified
  obtain rfl := Node.directory.inj (Option.some.inj (hstaging.symm.trans hd'))
  obtain ⟨written, hwritten, hrunId, hstate, hvalidity, -⟩ := h.described.manifest
  rw [hwritten] at hfile
  rw [← Node.file.inj (Option.some.inj hfile), hreads] at hmanifest
  obtain rfl := Except.ok.inj hmanifest
  -- it is verified where it has been staged, and the rename keeps its last name
  refine ⟨written, verified_of_relocated hverified (hstaging.trans h.moved.symm) ?_, hrunId, hstate,
    hvalidity⟩
  simp [Layout.staging, Layout.finalPath]

/-- A run that gives a result leaves a verified bundle. -/
theorem verified_of_result {codec : Codec} {services : Services} {outputRoot : List FileName}
    {bytes : Bytes} {faults : Faults} {disk : FileTree} {result : RunResult}
    (hreads : ∀ manifest : EvidenceManifest,
      codec.manifest (jsonBytes manifest.toJson) = .ok manifest)
    (h : (runOn codec services outputRoot bytes faults disk).outcome = .ok result) :
    ∃ manifest, verifyEvidenceBundle codec (services.layout outputRoot).finalPath
        (runOn codec services outputRoot bytes faults disk).world.store = .ok manifest ∧
      result.runState = manifest.runStatus ∧ result.validityStatus = manifest.validityStatus := by
  have hend := triple_runExperiment_endsAtomically faults codec services outputRoot bytes disk
    ⟨disk, 0, []⟩ ⟨0, []⟩ ⟨rfl, rfl, rfl⟩
  unfold Ended.Meets at hend
  unfold runOn at h
  rw [h] at hend
  obtain ⟨d, hpublished⟩ := hend
  obtain ⟨manifest, hverified, -, hstate, hvalidity⟩ := verified_of_published hreads hpublished
  exact ⟨manifest, hverified, hstate, hvalidity⟩

namespace SampleRun

def requestName : FileName := .ofString "request.yaml" (by decide)

/-- A disk with the document of the sample run. -/
def request : FileTree :=
  ⟨.entry requestName (.file (utf8 document)) .empty, by
    simp [Directory.Distinct, Directory.names]⟩

/-- A terminal in front of a working disk. -/
def surroundings : Surroundings :=
  ⟨services, "{}", noFaults, fun _ => none, fun _ _ => .error .notFound⟩

/-- The same command again, on whatever disk. -/
theorem exists_session (disk : FileTree) : ∃ tree,
    Session readingCodec [.run [requestName] [] true] disk tree := by
  obtain ⟨left, output, code, lines, hends⟩ :=
    @runCommand_ends readingCodec surroundings [requestName] [] true disk
  have hopen : (left.before fun _ _ => true).Open := fun _ _ => rfl
  exact ⟨_, .cons (SessionStep.ended ((hends.concludes _).trans (conclude_of_open hopen)))
    (.nil _)⟩

theorem readsManifests (manifest : EvidenceManifest) :
    readingCodec.manifest (jsonBytes manifest.toJson) = .ok manifest :=
  readsRecordsOf_readPlan.others (.manifest manifest) rfl

theorem room_request : Room (services.layout []) request := room_of_absent rfl rfl

/-- The command ends with the code of a result. -/
theorem exists_run : ∃ code ended,
    execute readingCodec surroundings (.run [requestName] [] true) (.start request) =
        some (code, ended) ∧
      (code = exitSuccess ∨ code = exitInvalid ∨ code = exitOperationalFailure) := by
  obtain ⟨result, hresult⟩ := publishes room_request
  have hcontent : contentAt surroundings [requestName] (Process.start request).disk =
      .ok (utf8 document) := rfl
  have houtcome : (surroundings.run readingCodec [] (utf8 document)
      (Process.start request).disk).outcome = .ok result := hresult
  obtain ⟨line, rest, hrun⟩ := @runCommand_of_result readingCodec surroundings [requestName] []
    true request (utf8 document) result hcontent houtcome
  exact ⟨_, _, (hrun _ rfl).trans (conclude_of_open ((Process.open_start request).behind _)),
    resultExitCode_of_terminal (gives_runExperiment _ _ _ _ hresult)⟩

/-- The bundle is deeper than the two directories of a run. -/
theorem spares : (Command.run [requestName] [] true).Spares (services.layout []).finalPath := by
  intro runId
  constructor
  · intro h
    have hlength : 2 ≤ 1 := h.length_le
    contradiction
  · intro h
    have hlength : 2 ≤ 1 := h.length_le
    contradiction

theorem spares_all : ∀ command ∈ [Command.run [requestName] [] true],
    command.Spares (services.layout []).finalPath := by
  intro command hcommand
  obtain rfl := List.mem_singleton.mp hcommand
  exact spares

end SampleRun

/-! ## The archive -/

/-- Over any sequence of commands, each in any surroundings and each stopped anywhere, no file
changes and no directory goes, and every bundle that the verifier accepts is accepted with the
same manifest at the end, as long as no run is told to write into it. -/
theorem session_keeps_archive (codec : Codec) (commands : List Command) (disk tree : FileTree)
    (hsession : Session codec commands disk tree) :
    (∀ path content, disk.lookup path = some (.file content) →
      tree.lookup path = some (.file content)) ∧
    (∀ path d, disk.lookup path = some (.directory d) →
      ∃ d', tree.lookup path = some (.directory d')) ∧
    ∀ path manifest, verifyEvidenceBundle codec path disk = .ok manifest →
      (∀ command ∈ commands, command.Spares path) →
      verifyEvidenceBundle codec path tree = .ok manifest := by
  refine ⟨?_, ?_, ?_⟩
  · intro path content hfile
    exact hsession.grows.file hfile
  · intro path d hd
    exact hsession.grows.directory hd
  · intro path manifest hverified hspares
    exact hsession.keeps_verified hspares hverified

/-- The bundle of the sample run is kept by another run of the same request. -/
theorem session_keeps_archive_sample : ∃ disk tree manifest,
    Session SampleRun.readingCodec [.run [SampleRun.requestName] [] true] disk tree ∧
    verifyEvidenceBundle SampleRun.readingCodec (SampleRun.services.layout []).finalPath disk =
      .ok manifest ∧
    verifyEvidenceBundle SampleRun.readingCodec (SampleRun.services.layout []).finalPath tree =
      .ok manifest := by
  obtain ⟨result, hresult⟩ := SampleRun.publishes SampleRun.room_request
  obtain ⟨manifest, hverified, -⟩ := verified_of_result SampleRun.readsManifests hresult
  obtain ⟨tree, hsession⟩ := SampleRun.exists_session
    (runOn SampleRun.readingCodec SampleRun.services [] (utf8 SampleRun.document) noFaults
      SampleRun.request).world.store
  exact ⟨_, tree, manifest, hsession, hverified,
    (session_keeps_archive _ _ _ _ hsession).2.2 _ _ hverified SampleRun.spares_all⟩

/-- A run that ends with 0, 3 or 4 has published a bundle that `evidence verify` accepts then
and after any further session that spares it, and its code tells what the manifest does. -/
theorem published_bundle_lasts (codec : Codec)
    (hreads : ∀ manifest : EvidenceManifest,
      codec.manifest (jsonBytes manifest.toJson) = .ok manifest)
    (surroundings : Surroundings) (experiment outputRoot : List FileName) (json : Bool)
    (disk tree : FileTree) (takes : Output → Nat → Bool) (code : UInt8) (ended : Process)
    (commands : List Command)
    (hrun : execute codec surroundings (.run experiment outputRoot json) (.facing takes disk) =
      some (code, ended))
    (hcode : code = exitSuccess ∨ code = exitInvalid ∨ code = exitOperationalFailure)
    (hsession : Session codec commands ended.disk tree)
    (hspares : ∀ command ∈ commands,
      command.Spares (surroundings.services.layout outputRoot).finalPath) :
    ∃ manifest : EvidenceManifest,
      (code = exitSuccess ↔
        manifest.runStatus = .succeeded ∧ manifest.validityStatus = .valid) ∧
      (code = exitOperationalFailure ↔
        manifest.runStatus = .failed ∨ manifest.runStatus = .interrupted) ∧
      ∀ later : Surroundings, later.reads 0 = none →
        execute codec later
            (.evidence (.verify (surroundings.services.layout outputRoot).finalPath)) (.start tree) =
          some (exitSuccess, (Process.start tree).printed [verifiedLine manifest]) := by
  rcases runCommand_cases hrun with ⟨rfl, -, -⟩ | ⟨bytes, hdisk, -, hresult | herror⟩
  · rcases hcode with h | h | h <;> contradiction
  · -- the session keeps the bundle that the run has left
    obtain ⟨result, houtcome, rfl⟩ := hresult
    have hterminal := gives_runExperiment _ _ _ _ houtcome
    obtain ⟨manifest, hverified, hstate, hvalidity⟩ := verified_of_result hreads houtcome
    have hnow : verifyEvidenceBundle codec (surroundings.services.layout outputRoot).finalPath
        ended.disk = .ok manifest := hdisk ▸ hverified
    have hlasting := hsession.keeps_verified hspares hnow
    obtain ⟨hsuccess, hfailure⟩ := resultExitCode_iff hterminal
    rw [hstate, hvalidity] at hsuccess
    rw [hstate] at hfailure
    refine ⟨manifest, hsuccess, hfailure, ?_⟩
    intro later hlater
    exact (@verifyCommand_of_verified codec later _ (.start tree) manifest hlater hlasting).trans
      (report_start _ _ _)
  · -- no error has one of the three codes
    obtain ⟨error, -, rfl⟩ := herror
    rcases errorExitCode_eq error with h | h | h
    all_goals
      rw [h] at hcode
      rcases hcode with hsame | hsame | hsame <;> contradiction

/-- The sample bundle outlasts another run of the same request. -/
theorem published_bundle_lasts_sample : ∃ disk tree,
    Session SampleRun.readingCodec [.run [SampleRun.requestName] [] true] disk tree ∧
    ∃ manifest : EvidenceManifest, ∀ later : Surroundings, later.reads 0 = none →
      execute SampleRun.readingCodec later
          (.evidence (.verify (SampleRun.services.layout []).finalPath)) (.start tree) =
        some (exitSuccess, (Process.start tree).printed [verifiedLine manifest]) := by
  obtain ⟨code, ended, hrun, hcode⟩ := SampleRun.exists_run
  obtain ⟨tree, hsession⟩ := SampleRun.exists_session ended.disk
  obtain ⟨manifest, -, -, hverified⟩ := published_bundle_lasts SampleRun.readingCodec
    SampleRun.readsManifests SampleRun.surroundings _ _ _ _ tree _ code ended _ hrun hcode hsession
    SampleRun.spares_all
  exact ⟨ended.disk, tree, hsession, manifest, hverified⟩

end Benchplane
