import Benchplane.Cli.Commands
import Benchplane.Comparison.Totality
import Benchplane.Run.Publication

/-!
# What a command reports

Every command ends with an exit code and with lines on one of its two outputs: on the
standard output when it has something to show, and on the error output when it has not.
-/

namespace Benchplane

open Library Library.Panicking

/-! ## Printing -/

/-- The process with more lines on its standard output. -/
def Process.printed (process : Process) (lines : List String) : Process :=
  process.written .stdout lines

@[simp] theorem Process.written_nil (process : Process) (output : Output) :
    process.written output [] = process := by
  cases output with
  | stdout => simp [Process.written]
  | stderr => simp [Process.written]

@[simp] theorem Process.written_written (process : Process) (output : Output)
    (lines more : List String) :
    (process.written output lines).written output more = process.written output (lines ++ more) := by
  cases output with
  | stdout => simp [Process.written]
  | stderr => simp [Process.written]

@[simp] theorem Process.takes_written (process : Process) (output : Output) (lines : List String) :
    (process.written output lines).takes = process.takes := by
  cases output with
  | stdout => rfl
  | stderr => rfl

@[simp] theorem Process.lines_written (process : Process) (output : Output)
    (lines : List String) :
    (process.written output lines).lines output = process.lines output ++ lines := by
  cases output with
  | stdout => rfl
  | stderr => rfl

/-- The same process in front of other outputs. -/
def Process.before (process : Process) (takes : Output → Nat → Bool) : Process :=
  { process with takes := takes }

/-- An output takes so many more lines. -/
def Process.Takes (process : Process) (output : Output) (count : Nat) : Prop :=
  ∀ place < count, process.takes output ((process.lines output).length + place) = true

/-- The outputs take everything. -/
def Process.Open (process : Process) : Prop :=
  ∀ output place, process.takes output place = true

theorem Process.Open.takes {process : Process} (h : process.Open) (output : Output) (count : Nat) :
    process.Takes output count := fun _ _ => h _ _

theorem Process.open_start (disk : FileTree) : (Process.start disk).Open := fun _ _ => rfl

/-- Behind a line that is taken, the next one is at the next place. -/
theorem Process.takes_succ {process : Process} {output : Output} {count : Nat} (line : String) :
    process.Takes output (count + 1) ↔
      process.takes output (process.lines output).length = true ∧
        (process.written output [line]).Takes output count := by
  unfold Process.Takes
  simp only [Process.takes_written, Process.lines_written, List.length_append, List.length_cons,
    List.length_nil]
  constructor
  · intro h
    refine ⟨h 0 (Nat.succ_pos _), fun place hplace => ?_⟩
    have hnext := h (place + 1) (Nat.succ_lt_succ hplace)
    rwa [Nat.add_comm place 1, ← Nat.add_assoc] at hnext
  · rintro ⟨hfirst, hnext⟩ place hplace
    cases place with
    | zero => exact hfirst
    | succ place =>
        rw [Nat.add_comm place 1, ← Nat.add_assoc]
        exact hnext place (Nat.lt_of_succ_lt_succ hplace)

/-- What follows a part that has ended. -/
theorem bind_of_eq {α β : Type} {part : Cli α} {next : α → Cli β} {process process' : Process}
    {a : α} (h : part process = some (a, process')) :
    (part >>= next) process = next a process' := by
  show (part process).bind (fun step => next step.1 step.2) = _
  rw [h, Option.bind_some]

/-- Nothing follows a panic. -/
theorem bind_of_none {α β : Type} {part : Cli α} {next : α → Cli β} {process : Process}
    (h : part process = none) : (part >>= next) process = none := by
  show (part process).bind (fun step => next step.1 step.2) = _
  rw [h, Option.bind_none]

theorem get_bind {β : Type} (next : Process → Cli β) (process : Process) :
    ((get : Cli Process) >>= next) process = next process process := rfl

/-- A value that is there is what the process goes on with. -/
theorem expect_bind {α β : Type} {value : Option α} {a : α} (h : value = some a)
    (next : α → Cli β) : (expect value >>= next) = next a := by
  rw [h]
  rfl

/-- A line is taken, or the process has panicked. -/
theorem writeLine_eq (output : Output) (line : String) (process : Process) :
    writeLine output line process =
      if process.takes output (process.lines output).length then
        some ((), process.written output [line])
      else none := by
  unfold writeLine
  rw [get_bind]
  split
  · rfl
  · rfl

/-- Lines on an output. -/
def writeAll (output : Output) (lines : List String) : Cli Unit :=
  lines.forM (writeLine output)

theorem writeAll_cons (output : Output) (line : String) (rest : List String) :
    writeAll output (line :: rest) = writeLine output line >>= fun _ => writeAll output rest := rfl

/-- Lines are written when the output takes them all. -/
theorem writeAll_of_takes {process : Process} {output : Output} {lines : List String}
    (h : process.Takes output lines.length) :
    writeAll output lines process = some ((), process.written output lines) := by
  -- on the lines: what is taken moves the place of the next one
  induction lines generalizing process with
  | nil =>
      rw [Process.written_nil]
      rfl
  | cons line rest ih =>
      obtain ⟨hfirst, hrest⟩ := (Process.takes_succ line).mp h
      have hline : writeLine output line process = some ((), process.written output [line]) := by
        rw [writeLine_eq, if_pos hfirst]
      rw [writeAll_cons, bind_of_eq hline, ih hrest, Process.written_written,
        List.singleton_append]

/-- The process panics at the first line that is refused. -/
theorem writeAll_of_not_takes {process : Process} {output : Output} {lines : List String}
    (h : ¬ process.Takes output lines.length) : writeAll output lines process = none := by
  induction lines generalizing process with
  | nil => exact absurd (fun place hplace => absurd hplace (Nat.not_lt_zero place)) h
  | cons line rest ih =>
      rw [writeAll_cons]
      by_cases hfirst : process.takes output (process.lines output).length = true
      · have hline : writeLine output line process = some ((), process.written output [line]) := by
          rw [writeLine_eq, if_pos hfirst]
        rw [bind_of_eq hline]
        exact ih fun hrest => h ((Process.takes_succ line).mpr ⟨hfirst, hrest⟩)
      · apply bind_of_none
        rw [writeLine_eq, if_neg hfirst]

/-- Lines that have been taken are there, and nothing else has changed. -/
theorem of_writeAll_eq_some {process ended : Process} {output : Output} {lines : List String}
    (h : writeAll output lines process = some ((), ended)) :
    ended = process.written output lines := by
  induction lines generalizing process with
  | nil =>
      obtain ⟨-, rfl⟩ := Prod.mk.inj (Option.some.inj h)
      rw [Process.written_nil]
  | cons line rest ih =>
      rw [writeAll_cons] at h
      have hline := writeLine_eq output line process
      split at hline
      · rw [bind_of_eq hline] at h
        rw [ih h, Process.written_written, List.singleton_append]
      · rw [bind_of_none hline] at h
        contradiction

/-! ## Reports and refusals -/

/-- An exit code behind lines on an output. -/
def conclude (output : Output) (code : UInt8) (lines : List String) : Cli UInt8 := do
  writeAll output lines
  pure code

/-- An exit code behind lines on the standard output. -/
def report (code : UInt8) (lines : List String) : Cli UInt8 := conclude .stdout code lines

/-- An exit code behind lines on the error output. -/
def refuse (code : UInt8) (lines : List String) : Cli UInt8 := conclude .stderr code lines

section

variable {process ended : Process} {output : Output} {code code' : UInt8} {lines : List String}

theorem conclude_of_takes (h : process.Takes output lines.length) :
    conclude output code lines process = some (code, process.written output lines) :=
  bind_of_eq (writeAll_of_takes h)

theorem conclude_of_not_takes (h : ¬ process.Takes output lines.length) :
    conclude output code lines process = none :=
  bind_of_none (writeAll_of_not_takes h)

theorem conclude_of_open (h : process.Open) :
    conclude output code lines process = some (code, process.written output lines) :=
  conclude_of_takes (h.takes output _)

theorem of_conclude_eq_some (h : conclude output code lines process = some (code', ended)) :
    code' = code ∧ ended = process.written output lines := by
  unfold conclude at h
  cases hwritten : writeAll output lines process with
  | none =>
      rw [bind_of_none hwritten] at h
      contradiction
  | some step =>
      rw [bind_of_eq hwritten] at h
      obtain ⟨rfl, rfl⟩ := Prod.mk.inj (Option.some.inj h)
      exact ⟨rfl, of_writeAll_eq_some hwritten⟩

end

theorem report_start (code : UInt8) (lines : List String) (disk : FileTree) :
    report code lines (.start disk) = some (code, (Process.start disk).printed lines) :=
  conclude_of_open (Process.open_start disk)

/-- A part of a process that prints given lines and does nothing else. -/
def Prints (part : Cli Unit) (lines : List String) : Prop := part = writeAll .stdout lines

/-- A part of a process that prints something and does nothing else. -/
def Speaks (part : Cli Unit) : Prop := ∃ lines, Prints part lines

theorem prints_println (line : String) : Prints (println line) [line] := by
  show println line = println line >>= fun _ => pure ()
  rw [bind_pure_unit]

theorem prints_nothing : Prints (pure ()) [] := rfl

theorem Prints.andThen {first second : Cli Unit} {lines more : List String}
    (hfirst : Prints first lines) (hsecond : Prints second more) :
    Prints (first >>= fun _ => second) (lines ++ more) := by
  rw [hfirst, hsecond]
  exact List.forM_append.symm

/-- A part that only prints gives a report when a code follows. -/
theorem Prints.report {part : Cli Unit} {lines : List String} (h : Prints part lines)
    (code : UInt8) : (part >>= fun _ => pure code) = Benchplane.report code lines := by
  rw [h]
  rfl

/-- A line on the error output gives a refusal when a code follows. -/
theorem bind_eprintln (line : String) (code : UInt8) :
    (eprintln line >>= fun _ => pure code) = refuse code [line] := by
  show _ = (eprintln line >>= fun _ => pure ()) >>= fun _ => pure code
  rw [bind_pure_unit]

theorem Prints.speaks {part : Cli Unit} {lines : List String} (h : Prints part lines) :
    Speaks part := ⟨lines, h⟩

theorem speaks_println (line : String) : Speaks (println line) := (prints_println line).speaks

theorem Speaks.andThen {first second : Cli Unit} (hfirst : Speaks first) (hsecond : Speaks second) :
    Speaks (first >>= fun _ => second) := by
  obtain ⟨lines, hlines⟩ := hfirst
  obtain ⟨more, hmore⟩ := hsecond
  exact (hlines.andThen hmore).speaks

/-- Behind a line there is at least that line. -/
theorem Speaks.behind {part : Cli Unit} (h : Speaks part) (line : String) :
    ∃ rest, Prints (println line >>= fun _ => part) (line :: rest) := by
  obtain ⟨rest, hrest⟩ := h
  exact ⟨rest, (prints_println line).andThen hrest⟩

theorem speaks_printOptional {α : Type} {value : Option α} {print : α → Cli Unit}
    (h : ∀ a, value = some a → Speaks (print a)) : Speaks (printOptional value print) := by
  cases value with
  | none => exact prints_nothing.speaks
  | some a => exact h a rfl

theorem speaks_forM {α : Type} (items : List α) (line : α → String) :
    Speaks (items.forM fun item => println (line item)) := by
  induction items with
  | nil => exact prints_nothing.speaks
  | cons item rest ih => exact (speaks_println (line item)).andThen ih

/-! ## The human forms -/

theorem speaks_printHumanResult (result : RunResult) :
    ∃ rest, Prints (printHumanResult result) (("run ID: " ++ result.runId) :: rest) := by
  unfold printHumanResult
  apply Speaks.behind
  repeat apply (speaks_println _).andThen
  apply (speaks_printOptional fun latency _ => speaks_println _).andThen
  apply (speaks_printOptional fun throughput _ => speaks_println _).andThen
  apply (speaks_printOptional fun resources _ => (speaks_println _).andThen (speaks_println _)).andThen
  repeat apply (speaks_println _).andThen
  exact speaks_println _

theorem speaks_printDistribution (label : String) (distribution : DistributionComparison) :
    Speaks (printDistribution label distribution) :=
  (speaks_println _).andThen ((speaks_println _).andThen (speaks_println _))

theorem speaks_printResources (resources : AttemptResourceComparison) :
    Speaks (printResources resources) := by
  unfold printResources
  cases resources.cpuTimeMicros with
  | none =>
      apply (speaks_println _).andThen
      cases resources.peakRssBytes with
      | none => exact speaks_println _
      | some rss => exact speaks_println _
  | some cpu =>
      apply (speaks_println _).andThen
      cases resources.peakRssBytes with
      | none => exact speaks_println _
      | some rss => exact speaks_println _

/-- A compatible comparison is printed when it has its two sections. -/
theorem speaks_printCompatible {comparison : EvidenceComparison}
    (hrequests : comparison.requests.isSome = true)
    (hrepetitions : comparison.repetitions.isSome = true) :
    Speaks (printCompatible comparison) := by
  obtain ⟨requests, hrequests⟩ := Option.isSome_iff_exists.mp hrequests
  obtain ⟨repetitions, hrepetitions⟩ := Option.isSome_iff_exists.mp hrepetitions
  unfold printCompatible
  apply (speaks_println _).andThen
  apply (speaks_forM _ _).andThen
  rw [expect_bind hrequests]
  apply (speaks_println _).andThen
  apply (speaks_printDistribution _ _).andThen
  apply (speaks_printDistribution _ _).andThen
  rw [expect_bind hrepetitions]
  apply (speaks_println _).andThen
  apply (speaks_printDistribution _ _).andThen
  apply (speaks_printDistribution _ _).andThen
  apply (speaks_println _).andThen
  apply (speaks_printOptional fun resources _ => speaks_printResources resources).andThen
  exact speaks_println _

/-- The sections that the printer of a compatible comparison relies on. -/
def EvidenceComparison.IsComplete (comparison : EvidenceComparison) : Prop :=
  comparison.compatible = true →
    comparison.requests.isSome = true ∧ comparison.repetitions.isSome = true

theorem speaks_printHumanComparison {comparison : EvidenceComparison} (h : comparison.IsComplete) :
    ∃ line rest, Prints (printHumanComparison comparison) (line :: rest) := by
  unfold printHumanComparison
  refine ⟨_, Speaks.behind ?_ _⟩
  apply (speaks_println _).andThen
  apply (speaks_println _).andThen
  by_cases hcompatible : comparison.compatible = true
  · obtain ⟨hrequests, hrepetitions⟩ := h hcompatible
    rw [if_pos hcompatible]
    exact speaks_printCompatible hrequests hrepetitions
  · rw [if_neg hcompatible]
    exact (speaks_println _).andThen (speaks_println _)

/-! ## Objections to a request -/

section

variable (codec : Codec) (surroundings : Surroundings)

/-- What the read of an experiment gives. -/
def contentAt (path : List FileName) (disk : FileTree) : Except IoError Bytes :=
  match surroundings.reads 0 with
  | some fault => .error fault.source
  | none => readFileAt surroundings path disk

/-- The line about an experiment that cannot be read. -/
def unreadLine (path : List FileName) (error : IoError) : String :=
  "error: could not read experiment " ++ lossyText (displayPath path) ++ ": " ++ ioErrorText error

/-- What the commands on an experiment have against it before they do anything with it: an
exit code and the lines on the error output. -/
inductive Objection (path : List FileName) (disk : FileTree) : UInt8 → List String → Prop where
  | unread {error : IoError} (hcontent : contentAt surroundings path disk = .error error) :
      Objection path disk exitInternal [unreadLine path error]
  | unparsed {bytes : Bytes} {error : ParseError}
      (hcontent : contentAt surroundings path disk = .ok bytes)
      (hparse : parseExperiment codec bytes = .error error) :
      Objection path disk exitRejected ["error: " ++ error.text]
  | invalid {bytes : Bytes} {experiment : Experiment} {errors : List ValidationError}
      (hcontent : contentAt surroundings path disk = .ok bytes)
      (hparse : parseExperiment codec bytes = .ok experiment)
      (hvalidate : experiment.validate = .error errors) :
      Objection path disk exitRejected (errors.map fun error => "error: " ++ error.text)

/-- An experiment that is read, parsed and valid. -/
structure Unobjected (path : List FileName) (disk : FileTree) (bytes : Bytes)
    (experiment : Experiment) : Prop where
  content : contentAt surroundings path disk = .ok bytes
  parsed : parseExperiment codec bytes = .ok experiment
  valid : experiment.validate = .ok ()

theorem objection_or_unobjected (path : List FileName) (disk : FileTree) :
    (∃ code lines, Objection codec surroundings path disk code lines) ∨
      ∃ bytes experiment, Unobjected codec surroundings path disk bytes experiment := by
  cases hcontent : contentAt surroundings path disk with
  | error error => exact Or.inl ⟨_, _, .unread hcontent⟩
  | ok bytes =>
      cases hparse : parseExperiment codec bytes with
      | error error => exact Or.inl ⟨_, _, .unparsed hcontent hparse⟩
      | ok experiment =>
          cases hvalidate : experiment.validate with
          | error errors => exact Or.inl ⟨_, _, .invalid hcontent hparse hvalidate⟩
          | ok u => exact Or.inr ⟨bytes, experiment, hcontent, hparse, hvalidate⟩

end

section

variable {codec : Codec} {surroundings : Surroundings} {path : List FileName} {process : Process}

theorem readExperimentBytes_ok {bytes : Bytes}
    (h : contentAt surroundings path process.disk = .ok bytes) :
    readExperimentBytes surroundings path process = some (.ok bytes, process) := by
  unfold readExperimentBytes
  rw [get_bind]
  cases hreads : surroundings.reads 0 with
  | some fault => simp [contentAt, hreads] at h
  | none =>
      simp only [contentAt, hreads] at h
      simp only [h]
      rfl

/-- A part that goes on as another one does what the other one does. -/
theorem bind_of_same {α β : Type} {part other : Cli α} {next : α → Cli β}
    (h : part process = other process) : (part >>= next) process = (other >>= next) process := by
  show (part process).bind _ = (other process).bind _
  rw [h]

theorem readExperimentBytes_error {error : IoError}
    (h : contentAt surroundings path process.disk = .error error) :
    readExperimentBytes surroundings path process =
      (eprintln (unreadLine path error) >>= fun _ => pure (.error exitInternal)) process := by
  unfold readExperimentBytes
  rw [get_bind]
  cases hreads : surroundings.reads 0 with
  | some fault =>
      simp only [contentAt, hreads, Except.error.injEq] at h
      simp only [h]
      rfl
  | none =>
      simp only [contentAt, hreads] at h
      simp only [h]
      rfl

/-- What follows an experiment that cannot be read. -/
theorem bind_readExperimentBytes_error {error : IoError} {next : Except UInt8 Bytes → Cli UInt8}
    {code : UInt8} (h : contentAt surroundings path process.disk = .error error)
    (hnext : next (.error exitInternal) = pure code) :
    (readExperimentBytes surroundings path >>= next) process =
      refuse code [unreadLine path error] process := by
  rw [bind_of_same (readExperimentBytes_error h), bind_assoc]
  simp only [pure_bind, hnext]
  rw [bind_eprintln]

/-- An objection is never silent. -/
theorem Objection.told {disk : FileTree} {code : UInt8} {lines : List String}
    (h : Objection codec surroundings path disk code lines) :
    (code = exitInternal ∨ code = exitRejected) ∧ lines ≠ [] := by
  cases h with
  | unread hcontent => exact ⟨Or.inl rfl, List.cons_ne_nil _ _⟩
  | unparsed hcontent hparse => exact ⟨Or.inr rfl, List.cons_ne_nil _ _⟩
  | invalid hcontent hparse hvalidate =>
      have hne := Experiment.errors_ne_nil hvalidate
      exact ⟨Or.inr rfl, by simpa using hne⟩

/-! ## The commands on an experiment -/

theorem validateCommand_of_objection {code : UInt8} {lines : List String}
    (h : Objection codec surroundings path process.disk code lines) :
    validateCommand codec surroundings path process = refuse code lines process := by
  unfold validateCommand
  cases h with
  | unread hcontent => exact bind_readExperimentBytes_error hcontent rfl
  | unparsed hcontent hparse =>
      rw [bind_of_eq (readExperimentBytes_ok hcontent)]
      simp only [hparse]
      exact congrFun (bind_eprintln _ _) process
  | invalid hcontent hparse hvalidate =>
      rw [bind_of_eq (readExperimentBytes_ok hcontent)]
      simp only [hparse, hvalidate]
      rfl

theorem validateCommand_of_unobjected {bytes : Bytes} {experiment : Experiment}
    (h : Unobjected codec surroundings path process.disk bytes experiment) :
    validateCommand codec surroundings path process =
      report exitSuccess ["valid: " ++ experiment.metadata.name] process := by
  unfold validateCommand
  rw [bind_of_eq (readExperimentBytes_ok h.content)]
  simp only [h.parsed, h.valid]
  rw [(prints_println _).report]

theorem resolveCommand_of_objection {code : UInt8} {lines : List String}
    (h : Objection codec surroundings path process.disk code lines) :
    resolveCommand codec surroundings path process = refuse code lines process := by
  unfold resolveCommand
  cases h with
  | unread hcontent => exact bind_readExperimentBytes_error hcontent rfl
  | unparsed hcontent hparse =>
      rw [bind_of_eq (readExperimentBytes_ok hcontent)]
      simp only [hparse]
      exact congrFun (bind_eprintln _ _) process
  | invalid hcontent hparse hvalidate =>
      rw [bind_of_eq (readExperimentBytes_ok hcontent)]
      simp only [hparse, resolveExperiment_of_invalid hvalidate]
      rfl

theorem resolveCommand_of_unobjected {bytes : Bytes} {experiment : Experiment}
    {plan : ResolvedExperiment}
    (h : Unobjected codec surroundings path process.disk bytes experiment)
    (hplan : resolveExperiment codec experiment = .ok plan) :
    resolveCommand codec surroundings path process =
      report exitSuccess [(plan.toJson codec.formatFloat).pretty 0] process := by
  unfold resolveCommand
  rw [bind_of_eq (readExperimentBytes_ok h.content)]
  simp only [h.parsed, hplan]
  rw [(prints_println _).report]

/-! ## The command that runs -/

variable {outputRoot : List FileName} {json : Bool}

/-- The process behind a run. -/
def Process.behind (process : Process)
    (ended : Ended FileTree Operation RunTrace RunError RunResult) : Process :=
  { process with
    disk := ended.world.store
    passed := ended.world.history.map Attempt.after ++ process.passed }

/-- A run leaves the outputs alone. -/
theorem Process.Open.behind (h : process.Open)
    (ended : Ended FileTree Operation RunTrace RunError RunResult) :
    (process.behind ended).Open := h

/-- The lines about the error of a run. -/
def RunError.lines : RunError → List String
  | .resolution (.validation errors) => errors.map fun error => "error: " ++ error.text
  | error => ["error: " ++ error.text]

/-- The run of a command. -/
def Surroundings.run (surroundings : Surroundings) (codec : Codec) (outputRoot : List FileName)
    (bytes : Bytes) (disk : FileTree) : Ended FileTree Operation RunTrace RunError RunResult :=
  runOn codec surroundings.services outputRoot bytes surroundings.faults disk

theorem runExperimentOn_eq {bytes : Bytes} {result : RunResult}
    (hok : (surroundings.run codec outputRoot bytes process.disk).outcome = .ok result) :
    runExperimentOn codec surroundings outputRoot bytes process = some (.ok result,
      process.behind (surroundings.run codec outputRoot bytes process.disk)) := by
  unfold Surroundings.run at hok
  unfold runExperimentOn
  rw [get_bind]
  simp only [hok]
  rfl

theorem runExperimentOn_error {bytes : Bytes} {error : RunError}
    (herror : (surroundings.run codec outputRoot bytes process.disk).outcome = .error error) :
    runExperimentOn codec surroundings outputRoot bytes process = some (.error error,
      process.behind (surroundings.run codec outputRoot bytes process.disk)) := by
  unfold Surroundings.run at herror
  unfold runExperimentOn
  rw [get_bind]
  simp only [herror]
  rfl

/-- A result is reported, with the same lines on whatever outputs. -/
theorem runCommand_of_result {disk : FileTree} {bytes : Bytes} {result : RunResult}
    (hcontent : contentAt surroundings path disk = .ok bytes)
    (hok : (surroundings.run codec outputRoot bytes disk).outcome = .ok result) :
    ∃ line rest, ∀ process : Process, process.disk = disk →
      runCommand codec surroundings path outputRoot json process =
        report (resultExitCode result) (line :: rest)
          (process.behind (surroundings.run codec outputRoot bytes process.disk)) := by
  obtain ⟨rest, hrest⟩ := speaks_printHumanResult result
  cases json with
  | true =>
      refine ⟨result.toJson.compact, [], ?_⟩
      rintro process rfl
      unfold runCommand
      rw [bind_of_eq (readExperimentBytes_ok hcontent)]
      dsimp only
      rw [bind_of_eq (runExperimentOn_eq hok)]
      exact congrFun ((prints_println _).report _) _
  | false =>
      refine ⟨"run ID: " ++ result.runId, rest, ?_⟩
      rintro process rfl
      unfold runCommand
      rw [bind_of_eq (readExperimentBytes_ok hcontent)]
      dsimp only
      rw [bind_of_eq (runExperimentOn_eq hok)]
      exact congrFun (hrest.report _) _

/-- An error is told. -/
theorem runCommand_of_error {bytes : Bytes} {error : RunError}
    (hcontent : contentAt surroundings path process.disk = .ok bytes)
    (herror : (surroundings.run codec outputRoot bytes process.disk).outcome = .error error) :
    runCommand codec surroundings path outputRoot json process =
      refuse (errorExitCode error) error.lines
        (process.behind (surroundings.run codec outputRoot bytes process.disk)) := by
  unfold runCommand
  rw [bind_of_eq (readExperimentBytes_ok hcontent)]
  dsimp only
  rw [bind_of_eq (runExperimentOn_error herror)]
  cases error with
  | resolution source =>
      cases source with
      | validation errors => rfl
  | parse source => exact congrFun (bind_eprintln _ _) _
  | unsupportedCombination source => exact congrFun (bind_eprintln _ _) _
  | io path source => exact congrFun (bind_eprintln _ _) _
  | lifecycle source => exact congrFun (bind_eprintln _ _) _
  | evidence source => exact congrFun (bind_eprintln _ _) _
  | publicationConflict path => exact congrFun (bind_eprintln _ _) _
  | allocated runId phase stagingPath source => exact congrFun (bind_eprintln _ _) _

theorem runCommand_of_unread {error : IoError}
    (h : contentAt surroundings path process.disk = .error error) :
    runCommand codec surroundings path outputRoot json process =
      refuse exitInternal [unreadLine path error] process := by
  unfold runCommand
  exact bind_readExperimentBytes_error h rfl

/-- An accepted request is not rejected later: it publishes, or the final directory is left
as it was. -/
theorem meets_accepted {services : Services} {bytes : Bytes} {plan : ResolvedExperiment}
    {kind : ExecutionKind} (haccept : acceptRequest codec services bytes = .ok (plan, kind))
    (faults : Faults) (disk : FileTree) :
    (runOn codec services outputRoot bytes faults disk).Meets
      (fun result w _ => ∃ d, Published codec (services.layout outputRoot) result d w)
      (fun error w _ => error.isRequestRejection = false ∧
        w.store.lookup (services.layout outputRoot).finalPath =
          disk.lookup (services.layout outputRoot).finalPath) := by
  rw [runOn_of_accepted haccept]
  exact triple_acceptedRun_publishes (isExecutable_of_acceptRequest haccept) disk _ _ ⟨rfl, rfl⟩

/-- A rejection of a request is told. -/
theorem RunError.lines_ne_nil {services : Services} {bytes : Bytes} {error : RunError}
    (h : acceptRequest codec services bytes = .error error) : error.lines ≠ [] := by
  unfold acceptRequest at h
  cases hparse : parseExperiment codec bytes with
  | error source =>
      rw [hparse] at h
      obtain rfl := Except.error.inj h
      exact List.cons_ne_nil _ _
  | ok experiment =>
      simp only [hparse, mapFailure, bind, Except.bind] at h
      cases hvalidate : experiment.validate with
      -- the one rejection that may have several lines has at least one
      | error errors =>
          simp only [resolveExperiment_of_invalid hvalidate] at h
          obtain rfl := Except.error.inj h
          have hne := Experiment.errors_ne_nil hvalidate
          simpa [RunError.lines] using hne
      | ok u =>
          obtain ⟨plan, hplan⟩ := exists_resolveExperiment codec hvalidate
          simp only [hplan] at h
          cases hkind : executionKind services.cudaPackageAvailable plan with
          | error source =>
              simp only [hkind] at h
              obtain rfl := Except.error.inj h
              exact List.cons_ne_nil _ _
          | ok kind =>
              simp only [hkind] at h
              contradiction

/-- An error other than a rejection is one line. -/
theorem RunError.lines_of_accepted {error : RunError} (h : error.isRequestRejection = false) :
    error.lines = ["error: " ++ error.text] := by
  cases error with
  | resolution source => contradiction
  | parse source => contradiction
  | unsupportedCombination source => contradiction
  | io path source => rfl
  | lifecycle source => rfl
  | evidence source => rfl
  | publicationConflict path => rfl
  | allocated runId phase stagingPath source => rfl

/-- The result of a run is terminal. -/
theorem gives_runExperiment {services : Services} {bytes : Bytes} :
    Gives (runExperiment codec services outputRoot bytes)
      fun result => result.runState.isTerminal = true := by
  unfold runExperiment
  simp only [Program.bind_eq_andThen]
  apply Gives.ofExcept
  rintro ⟨plan, kind⟩ haccept
  unfold acceptedRun
  simp only [Program.bind_eq_andThen]
  apply Gives.andThen
  intro runId
  iterate 4
    apply Gives.andThen
    intro _
  -- the only result is the one at the end of the publication
  apply Gives.nested
  unfold allocatedRun
  apply Gives.recover
  · unfold attemptRun
    simp only [Program.bind_eq_andThen]
    iterate 9
      apply Gives.andThen
      intro _
    unfold publishEvidence
    simp only [Program.bind_eq_andThen]
    iterate 4
      apply Gives.andThen
      intro _
    exact Gives.ok executeRuntime_terminal
  · intro failure
    simp only [Program.bind_eq_andThen]
    apply Gives.andThen
    intro _
    exact Gives.fail _

/-! ## The commands on evidence -/

/-- A bundle is verified or refused, on whatever outputs. -/
theorem verifyCommand_eq (disk : FileTree) (bundle : List FileName) :
    (∃ manifest, ∀ takes, verifyCommand codec surroundings bundle (.facing takes disk) =
      report exitSuccess [verifiedLine manifest] (.facing takes disk)) ∨
    ∃ line, ∀ takes, verifyCommand codec surroundings bundle (.facing takes disk) =
      refuse exitFinalizationFailure [line] (.facing takes disk) := by
  unfold verifyCommand
  simp only [get_bind]
  cases surroundings.reads 0 with
  | some fault => exact Or.inr ⟨_, fun takes => congrFun (bind_eprintln _ _) _⟩
  | none =>
      cases hverified : verifyEvidenceBundle codec bundle disk with
      | error error =>
          refine Or.inr ⟨"error: " ++ error.text, fun takes => ?_⟩
          simp only [Process.facing, hverified]
          exact congrFun (bind_eprintln _ _) _
      | ok manifest =>
          refine Or.inl ⟨manifest, fun takes => ?_⟩
          simp only [Process.facing, hverified]
          exact congrFun ((prints_println _).report _) _

/-- A comparison of any two paths has a result, which can be printed. -/
theorem exists_compareBundlesOn (disk : FileTree) (baselinePath candidatePath : List FileName) :
    ∃ result, compareBundlesOn codec surroundings disk baselinePath candidatePath =
        returns result ∧
      ∀ comparison, result = .ok comparison → comparison.IsComplete := by
  unfold compareBundlesOn
  -- a read that fails is the end; without one the comparison is total
  cases surroundings.reads 0 with
  | some fault => exact ⟨_, rfl, by simp⟩
  | none =>
      cases surroundings.reads 1 with
      | some fault =>
          dsimp only
          rw [Machine.verifyEvidenceBundleAt_eq, rewriteFailure_returns]
          cases canonicalBundleRoot baselinePath disk >>= verifyEvidenceBundleData codec with
          | error error => exact ⟨_, rfl, by simp⟩
          | ok bundle => exact ⟨_, rfl, by simp⟩
      | none =>
          cases hread : canonicalBundleRoot baselinePath disk >>= verifyEvidenceBundleData codec with
          | error error =>
              refine ⟨.error (.invalidEvidence "baseline" error), ?_, by simp⟩
              dsimp only
              rw [compareEvidenceBundles, Machine.verifyEvidenceBundleAt_eq, hread]
              rfl
          | ok baseline =>
              cases hread' : canonicalBundleRoot candidatePath disk >>=
                  verifyEvidenceBundleData codec with
              | error error =>
                  refine ⟨.error (.invalidEvidence "candidate" error), ?_, by simp⟩
                  dsimp only
                  rw [compareEvidenceBundles, Machine.verifyEvidenceBundleAt_eq,
                    Machine.verifyEvidenceBundleAt_eq, hread, hread']
                  rfl
              | ok candidate =>
                  have hverified : VerifiesAs codec disk baselinePath baseline :=
                    bind_eq_ok_iff.mp hread
                  have hverified' : VerifiesAs codec disk candidatePath candidate :=
                    bind_eq_ok_iff.mp hread'
                  obtain ⟨result, hcompared, hsections⟩ :=
                    exists_compareVerified hverified.established hverified'.established
                  refine ⟨result, (compareEvidenceBundles_eq hverified hverified').trans hcompared,
                    ?_⟩
                  intro comparison hcomparison hcompatible
                  obtain ⟨⟨requests, hrequests, -⟩, ⟨repetitions, hrepetitions, -⟩, -⟩ :=
                    hsections comparison hcomparison hcompatible
                  rw [hrequests, hrepetitions]
                  exact ⟨rfl, rfl⟩

/-- A comparison is shown or refused, on whatever outputs. -/
theorem compareCommand_eq (disk : FileTree) (baselinePath candidatePath : List FileName) :
    (∃ line rest, ∀ takes, compareCommand codec surroundings baselinePath candidatePath json
        (.facing takes disk) = report exitSuccess (line :: rest) (.facing takes disk)) ∨
    ∃ line, ∀ takes, compareCommand codec surroundings baselinePath candidatePath json
        (.facing takes disk) = refuse exitFinalizationFailure [line] (.facing takes disk) := by
  obtain ⟨result, hresult, hcomplete⟩ :=
    @exists_compareBundlesOn codec surroundings disk baselinePath candidatePath
  have hresult' : ∀ takes, compareBundlesOn codec surroundings (Process.facing takes disk).disk
      baselinePath candidatePath = some result := fun _ => hresult
  unfold compareCommand
  simp only [get_bind, expect_bind (hresult' _)]
  cases result with
  | error error => exact Or.inr ⟨_, fun takes => congrFun (bind_eprintln _ _) _⟩
  | ok comparison =>
      refine Or.inl ?_
      cases json with
      | true =>
          exact ⟨comparison.toJson.compact, [], fun takes => congrFun ((prints_println _).report _) _⟩
      | false =>
          obtain ⟨line, rest, hlines⟩ := speaks_printHumanComparison (hcomplete comparison rfl)
          exact ⟨line, rest, fun takes => congrFun (hlines.report _) _⟩

/-! ## Answers -/

/-- How a command may answer: with something on the standard output alone, or with something
on the error output alone. -/
inductive Answer (code : UInt8) (process : Process) : Prop where
  | report
      (hcode : code = exitSuccess ∨ code = exitInvalid ∨ code = exitOperationalFailure)
      (hstdout : process.stdout ≠ []) (hstderr : process.stderr = [])
  | failure
      (hcode : code = exitInternal ∨ code = exitRejected ∨ code = exitFinalizationFailure)
      (hstdout : process.stdout = []) (hstderr : process.stderr ≠ [])

/-- What a command may conclude with: at least one line on the output of its exit code. -/
inductive IsConclusion (code : UInt8) (lines : List String) : Output → Prop where
  | report (hlines : lines ≠ [])
      (hcode : code = exitSuccess ∨ code = exitInvalid ∨ code = exitOperationalFailure) :
      IsConclusion code lines .stdout
  | failure (hlines : lines ≠ [])
      (hcode : code = exitInternal ∨ code = exitRejected ∨ code = exitFinalizationFailure) :
      IsConclusion code lines .stderr

/-- Nothing has been printed yet. -/
def Process.IsQuiet (process : Process) : Prop := process.stdout = [] ∧ process.stderr = []

theorem IsConclusion.answer {code : UInt8} {lines : List String} {output : Output}
    (h : IsConclusion code lines output) (hquiet : process.IsQuiet) :
    Answer code (process.written output lines) := by
  obtain ⟨hstdout, hstderr⟩ := hquiet
  cases h with
  | report hlines hcode =>
      exact .report hcode (by simpa [Process.written, hstdout] using hlines) hstderr
  | failure hlines hcode =>
      exact .failure hcode hstdout (by simpa [Process.written, hstderr] using hlines)

/-- How a command ends on a disk, whatever its outputs take: with a conclusion of a quiet
process.  What is rejected has changed nothing. -/
structure EndsWith (command : Cli UInt8) (disk : FileTree) (left : Process) (output : Output)
    (code : UInt8) (lines : List String) : Prop where
  concludes : ∀ takes, command (.facing takes disk) = conclude output code lines (left.before takes)
  conclusion : IsConclusion code lines output
  quiet : left.IsQuiet
  rejected : code = exitRejected → left.disk = disk ∧ left.passed = []

/-- A terminal result is shown with a code of its own. -/
theorem resultExitCode_of_terminal {result : RunResult}
    (h : result.runState.isTerminal = true) :
    resultExitCode result = exitSuccess ∨ resultExitCode result = exitInvalid ∨
      resultExitCode result = exitOperationalFailure := by
  unfold resultExitCode
  cases hstate : result.runState with
  | succeeded =>
      cases result.validityStatus with
      | valid => exact Or.inl rfl
      | invalid => exact Or.inr (Or.inl rfl)
      | indeterminate => exact Or.inr (Or.inl rfl)
  | failed => exact Or.inr (Or.inr rfl)
  | interrupted => exact Or.inr (Or.inr rfl)
  | created => rw [hstate] at h; contradiction
  | preparing => rw [hstate] at h; contradiction
  | running => rw [hstate] at h; contradiction
  | collecting => rw [hstate] at h; contradiction
  | finalizing => rw [hstate] at h; contradiction

theorem errorExitCode_eq (error : RunError) :
    errorExitCode error = exitInternal ∨ errorExitCode error = exitRejected ∨
      errorExitCode error = exitFinalizationFailure := by
  unfold errorExitCode
  split
  · exact Or.inr (Or.inl rfl)
  · split
    · exact Or.inr (Or.inr rfl)
    · exact Or.inl rfl

/-- Only a rejection gives the code of a rejection. -/
theorem isRequestRejection_of_exitRejected {error : RunError}
    (h : errorExitCode error = exitRejected) : error.isRequestRejection = true := by
  unfold errorExitCode at h
  split at h
  · assumption
  · split at h <;> contradiction

section

variable {disk : FileTree} {bytes : Bytes}

/-- `run` ends with the lines of its error. -/
theorem runCommand_ends_of_error {error : RunError}
    (hcontent : contentAt surroundings path disk = .ok bytes)
    (herror : (surroundings.run codec outputRoot bytes disk).outcome = .error error)
    (hlines : error.lines ≠ [])
    (hrejected : errorExitCode error = exitRejected →
      ((Process.start disk).behind (surroundings.run codec outputRoot bytes disk)).disk = disk ∧
      ((Process.start disk).behind (surroundings.run codec outputRoot bytes disk)).passed = []) :
    EndsWith (runCommand codec surroundings path outputRoot json) disk
      ((Process.start disk).behind (surroundings.run codec outputRoot bytes disk)) .stderr
      (errorExitCode error) error.lines where
  concludes takes := @runCommand_of_error codec surroundings path (.facing takes disk) outputRoot
    json bytes error hcontent herror
  conclusion := .failure hlines (errorExitCode_eq error)
  quiet := ⟨rfl, rfl⟩
  rejected := hrejected

/-- `run` ends with its result. -/
theorem runCommand_ends_of_result {result : RunResult}
    (hcontent : contentAt surroundings path disk = .ok bytes)
    (hok : (surroundings.run codec outputRoot bytes disk).outcome = .ok result) :
    ∃ lines, EndsWith (runCommand codec surroundings path outputRoot json) disk
      ((Process.start disk).behind (surroundings.run codec outputRoot bytes disk)) .stdout
      (resultExitCode result) lines := by
  obtain ⟨line, rest, hrun⟩ :=
    @runCommand_of_result codec surroundings path outputRoot json disk bytes result hcontent hok
  have hcode := resultExitCode_of_terminal (gives_runExperiment _ _ _ _ hok)
  refine ⟨line :: rest, fun takes => hrun (.facing takes disk) rfl,
    .report (List.cons_ne_nil _ _) hcode, ⟨rfl, rfl⟩, ?_⟩
  -- the code of a result is not that of a rejection
  intro hrejected
  rw [hrejected] at hcode
  rcases hcode with h | h | h <;> contradiction

/-- `run` ends with what there is against the request, or with its result or its error. -/
theorem runCommand_ends (disk : FileTree) :
    ∃ left output code lines, EndsWith (runCommand codec surroundings path outputRoot json)
      disk left output code lines := by
  cases hcontent : contentAt surroundings path disk with
  | error error =>
      exact ⟨.start disk, .stderr, _, _,
        fun takes => @runCommand_of_unread codec surroundings path (.facing takes disk) _ _ _
          hcontent,
        .failure (List.cons_ne_nil _ _) (Or.inl rfl), ⟨rfl, rfl⟩, fun _ => ⟨rfl, rfl⟩⟩
  | ok bytes =>
      cases haccept : acceptRequest codec surroundings.services bytes with
      | error error =>
          have hrun : surroundings.run codec outputRoot bytes disk =
              ⟨.error error, ⟨disk, 0, []⟩, ⟨0, []⟩⟩ := runOn_of_rejected haccept _ _
          have herror : (surroundings.run codec outputRoot bytes disk).outcome = .error error := by
            rw [hrun]
          refine ⟨_, _, _, _,
            runCommand_ends_of_error hcontent herror (RunError.lines_ne_nil haccept) ?_⟩
          intro _
          rw [hrun]
          exact ⟨rfl, rfl⟩
      | ok request =>
          obtain ⟨plan, kind⟩ := request
          have hmeets := @meets_accepted codec outputRoot surroundings.services bytes plan kind
            haccept surroundings.faults disk
          unfold Ended.Meets at hmeets
          cases houtcome : (surroundings.run codec outputRoot bytes disk).outcome with
          | panic =>
              unfold Surroundings.run at houtcome
              rw [houtcome] at hmeets
              exact hmeets.elim
          | ok result =>
              obtain ⟨lines, hends⟩ := @runCommand_ends_of_result codec surroundings path outputRoot
                json disk bytes result hcontent houtcome
              exact ⟨_, _, _, lines, hends⟩
          | error error =>
              have hmet := houtcome
              unfold Surroundings.run at hmet
              rw [hmet] at hmeets
              have hlines : error.lines ≠ [] := by
                rw [RunError.lines_of_accepted hmeets.1]
                exact List.cons_ne_nil _ _
              refine ⟨_, _, _, _, runCommand_ends_of_error hcontent houtcome hlines ?_⟩
              -- an accepted request is not rejected any more
              intro hrejected
              have hrequest := isRequestRejection_of_exitRejected hrejected
              rw [hmeets.1] at hrequest
              contradiction

end

/-! ## Commands that only tell -/

/-- A command that reports or refuses and does nothing else. -/
inductive TellsOnly (command : Cli UInt8) (disk : FileTree) : Prop where
  | shown {line : String} {rest : List String}
      (h : ∀ takes, command (.facing takes disk) =
        report exitSuccess (line :: rest) (.facing takes disk))
  | refused {code : UInt8} {lines : List String} (hlines : lines ≠ [])
      (hcode : code = exitInternal ∨ code = exitRejected ∨ code = exitFinalizationFailure)
      (h : ∀ takes, command (.facing takes disk) = refuse code lines (.facing takes disk))

/-- Every command but `run` only tells. -/
theorem tellsOnly_execute {command : Command}
    (hother : ∀ experiment outputRoot json, command ≠ .run experiment outputRoot json)
    (disk : FileTree) : TellsOnly (execute codec surroundings command) disk := by
  cases command with
  | run experiment outputRoot json => exact absurd rfl (hother experiment outputRoot json)
  | validate path =>
      rcases objection_or_unobjected codec surroundings path disk with
        ⟨code, lines, hobjection⟩ | ⟨bytes, experiment, hnone⟩
      · obtain ⟨hcode, hlines⟩ := hobjection.told
        exact .refused hlines (hcode.imp_right Or.inl)
          fun _ => validateCommand_of_objection hobjection
      · exact .shown fun _ => validateCommand_of_unobjected hnone
  | resolve path =>
      rcases objection_or_unobjected codec surroundings path disk with
        ⟨code, lines, hobjection⟩ | ⟨bytes, experiment, hnone⟩
      · obtain ⟨hcode, hlines⟩ := hobjection.told
        exact .refused hlines (hcode.imp_right Or.inl)
          fun _ => resolveCommand_of_objection hobjection
      · obtain ⟨plan, hplan⟩ := exists_resolveExperiment codec hnone.valid
        exact .shown fun _ => resolveCommand_of_unobjected hnone hplan
  | schema command =>
      cases command with
      | «export» => exact .shown fun _ => congrFun ((prints_println _).report _) _
  | evidence command =>
      cases command with
      | verify bundle =>
          rcases @verifyCommand_eq codec surroundings disk bundle with
            ⟨manifest, hverified⟩ | ⟨line, hrefused⟩
          · exact .shown hverified
          · exact .refused (List.cons_ne_nil _ _) (Or.inr (Or.inr rfl)) hrefused
      | compare baselinePath candidatePath json =>
          rcases @compareCommand_eq codec surroundings json disk baselinePath candidatePath with
            ⟨line, rest, hshown⟩ | ⟨line, hrefused⟩
          · exact .shown hshown
          · exact .refused (List.cons_ne_nil _ _) (Or.inr (Or.inr rfl)) hrefused

/-- A command that only tells ends where it began, and with neither 3 nor 4. -/
theorem TellsOnly.ends {command : Cli UInt8} {disk : FileTree} (h : TellsOnly command disk) :
    ∃ output code lines, EndsWith command disk (.start disk) output code lines ∧
      code ≠ exitInvalid ∧ code ≠ exitOperationalFailure := by
  cases h with
  | shown h =>
      exact ⟨.stdout, _, _, ⟨h, .report (List.cons_ne_nil _ _) (Or.inl rfl), ⟨rfl, rfl⟩,
        fun _ => ⟨rfl, rfl⟩⟩, by decide, by decide⟩
  | refused hlines hcode h =>
      refine ⟨.stderr, _, _, ⟨h, .failure hlines hcode, ⟨rfl, rfl⟩, fun _ => ⟨rfl, rfl⟩⟩, ?_⟩
      rcases hcode with rfl | rfl | rfl <;> decide

/-- What it leaves is the disk as it was. -/
theorem TellsOnly.disk_eq {command : Cli UInt8} {disk : FileTree} (h : TellsOnly command disk)
    {takes : Output → Nat → Bool} {code : UInt8} {ended : Process}
    (hended : command (.facing takes disk) = some (code, ended)) :
    ended.disk = disk ∧ ended.passed = [] := by
  cases h with
  | shown h =>
      obtain ⟨-, rfl⟩ := of_conclude_eq_some ((h takes).symm.trans hended)
      exact ⟨rfl, rfl⟩
  | refused hlines hcode h =>
      obtain ⟨-, rfl⟩ := of_conclude_eq_some ((h takes).symm.trans hended)
      exact ⟨rfl, rfl⟩

/-- Every command ends in one way, whatever its outputs take. -/
theorem execute_ends (command : Command) (disk : FileTree) :
    ∃ left output code lines,
      EndsWith (execute codec surroundings command) disk left output code lines ∧
      ((∀ experiment outputRoot json, command ≠ .run experiment outputRoot json) →
        left = .start disk ∧ code ≠ exitInvalid ∧ code ≠ exitOperationalFailure) := by
  by_cases hother : ∀ experiment outputRoot json, command ≠ .run experiment outputRoot json
  · obtain ⟨output, code, lines, hends, hcode⟩ :=
      (@tellsOnly_execute codec surroundings command hother disk).ends
    exact ⟨_, output, code, lines, hends, fun _ => ⟨rfl, hcode⟩⟩
  · push Not at hother
    obtain ⟨experiment, outputRoot, json, rfl⟩ := hother
    obtain ⟨left, output, code, lines, hends⟩ :=
      @runCommand_ends codec surroundings experiment outputRoot json disk
    exact ⟨left, output, code, lines, hends, fun hother => absurd rfl (hother _ _ _)⟩

end

/-- What a quiet process has printed is on one output, and nothing is on the other. -/
theorem Process.IsQuiet.taken_iff {left : Process} (h : left.IsQuiet) (output : Output)
    (lines : List String) (takes : Output → Nat → Bool) :
    (left.before takes).Takes output lines.length ↔
      ∀ other place, place < ((left.written output lines).lines other).length →
        takes other place = true := by
  obtain ⟨hstdout, hstderr⟩ := h
  cases output with
  | stdout =>
      simp only [Process.Takes, Process.before, Process.lines, Process.written, hstdout,
        List.length_nil, Nat.zero_add, List.nil_append]
      constructor
      · rintro htaken (_ | _) place hplace
        · exact htaken place hplace
        · simp [hstderr] at hplace
      · exact fun htaken place hplace => htaken .stdout place hplace
  | stderr =>
      simp only [Process.Takes, Process.before, Process.lines, Process.written, hstderr,
        List.length_nil, Nat.zero_add, List.nil_append]
      constructor
      · rintro htaken (_ | _) place hplace
        · simp [hstdout] at hplace
        · exact htaken place hplace
      · exact fun htaken place hplace => htaken .stderr place hplace

/-- Every command has one answer on a disk, whatever reads and operations fail: a code between
0 and 5 and what it prints, with 0, 3 and 4 on the standard output alone, with 1, 2 and 5 on
the error output alone.  It gives this answer when its outputs take these lines, and panics
when they refuse one.  Only `run` changes the disk or ends with 3 or 4, and what is rejected
has not been begun. -/
theorem execute_answers (codec : Codec) (surroundings : Surroundings) (command : Command)
    (disk : FileTree) :
    ∃ code ended,
      Answer code ended ∧
      (code = exitRejected → ended.disk = disk ∧ ended.passed = []) ∧
      ((∀ experiment outputRoot json, command ≠ .run experiment outputRoot json) →
        ended.disk = disk ∧ ended.passed = [] ∧ code ≠ exitInvalid ∧
          code ≠ exitOperationalFailure) ∧
      ∀ takes : Output → Nat → Bool,
        ((∀ output place, place < (ended.lines output).length → takes output place = true) →
          execute codec surroundings command (.facing takes disk) =
            some (code, ended.before takes)) ∧
        ((∃ output place, place < (ended.lines output).length ∧ takes output place = false) →
          execute codec surroundings command (.facing takes disk) = none) := by
  obtain ⟨left, output, code, lines, hends, hother⟩ := @execute_ends codec surroundings command disk
  have hleft : (left.written output lines).disk = left.disk ∧
      (left.written output lines).passed = left.passed := by
    cases output with
    | stdout => exact ⟨rfl, rfl⟩
    | stderr => exact ⟨rfl, rfl⟩
  -- the answer is what the command leaves with its lines written
  refine ⟨code, left.written output lines, hends.conclusion.answer hends.quiet, ?_, ?_, ?_⟩
  · intro hrejected
    rw [hleft.1, hleft.2]
    exact hends.rejected hrejected
  · intro honly
    obtain ⟨rfl, hcode⟩ := hother honly
    exact ⟨hleft.1, hleft.2, hcode⟩
  · intro takes
    have htaken := hends.quiet.taken_iff output lines takes
    have hwritten : (left.before takes).written output lines =
        (left.written output lines).before takes := by
      cases output with
      | stdout => rfl
      | stderr => rfl
    rw [hends.concludes takes]
    constructor
    · intro hall
      rw [conclude_of_takes (htaken.mpr hall), hwritten]
    · rintro ⟨other, place, hplace, hrefused⟩
      apply conclude_of_not_takes
      intro hall
      rw [htaken.mp hall other place hplace] at hrefused
      contradiction

end Benchplane
