import Benchplane.Library.Binary64
import Benchplane.Library.Checks
import Benchplane.Schema.ReportEncoding

/-!
# What a command prints

A process prints lines on its two outputs, and panics where they are not taken.  The
human forms of a run's result and of a comparison are printed line by line.  The JSON
forms are one line.
-/

namespace Benchplane

open Library

/-! ## Processes -/

/-- The two outputs of a process. -/
inductive Output where
  | stdout
  | stderr

/-- The state of a process: the disk, the disks it has been through, the lines it has
printed, and which lines its outputs take.  An output refuses a line when the write fails,
as on a full device or a closed pipe. -/
structure Process where
  disk : FileTree
  passed : List FileTree
  stdout : List String
  stderr : List String
  takes : Output → Nat → Bool

/-- A process before its first step, in front of two outputs. -/
def Process.facing (takes : Output → Nat → Bool) (disk : FileTree) : Process :=
  ⟨disk, [], [], [], takes⟩

/-- A process before its first step, whose outputs take everything. -/
def Process.start (disk : FileTree) : Process := .facing (fun _ _ => true) disk

/-- A part of a process.  No result is a panic. -/
abbrev Cli (α : Type) := StateT Process Option α

/-- `expect`. -/
def expect {α : Type} (value : Option α) : Cli α := StateT.lift value

/-- The lines on an output. -/
def Process.lines (process : Process) : Output → List String
  | .stdout => process.stdout
  | .stderr => process.stderr

/-- The process with more lines on an output. -/
def Process.written (process : Process) (output : Output) (lines : List String) : Process :=
  match output with
  | .stdout => { process with stdout := process.stdout ++ lines }
  | .stderr => { process with stderr := process.stderr ++ lines }

/-- A line that is printed, or a panic when it is refused. -/
def writeLine (output : Output) (line : String) : Cli Unit := do
  let process ← get
  if process.takes output (process.lines output).length then set (process.written output [line])
  else expect none

/-- `println!`. -/
def println (line : String) : Cli Unit := writeLine .stdout line

/-- `eprintln!`. -/
def eprintln (line : String) : Cli Unit := writeLine .stderr line

/-- A loop that prints a line for every item. -/
def eprintAll (lines : List String) : Cli Unit :=
  lines.forM eprintln

/-! ## The result of a run -/

def ValidityStatus.asStr : ValidityStatus → String
  | .valid => "valid"
  | .invalid => "invalid"
  | .indeterminate => "indeterminate"

/-- A line for a value that may be absent. -/
def printOptional {α : Type} (value : Option α) (print : α → Cli Unit) : Cli Unit :=
  match value with
  | none => pure ()
  | some value => print value

/-- `print_human_result`. -/
def printHumanResult (result : RunResult) : Cli Unit := do
  println ("run ID: " ++ result.runId)
  println ("run state: " ++ result.runState.asStr)
  println ("validity: " ++ result.validityStatus.asStr)
  println ("attempt count: " ++ result.attemptCount.toNat.repr)
  println ("sample count: " ++ result.sampleCount.toNat.repr)
  printOptional result.latency fun latency =>
    println ("repetition-aggregate latency (µs): mean=" ++ latency.meanMicros.toNat.repr ++
      " p50=" ++ latency.p50Micros.toNat.repr ++ " p95=" ++ latency.p95Micros.toNat.repr)
  printOptional result.meanThroughputMilliRequestsPerSecond fun throughput =>
    println ("mean throughput (mreq/s): " ++ throughput.toNat.repr)
  printOptional result.resources fun resources => do
    println ("helper CPU time (µs): " ++ resources.cpuTimeMicros.toNat.repr)
    println ("helper peak RSS (bytes): " ++ resources.peakRssBytes.toNat.repr)
  println ("bundle path: " ++ lossyText result.bundlePath)
  println ("experiment digest: " ++ result.experimentDigest)
  println ("resolved-plan digest: " ++ result.resolvedPlanDigest)
  println ("evidence digest: " ++ result.evidenceDigest)

/-! ## A comparison -/

/-- `{:+}`. -/
def signedText (value : Int) : String :=
  (if value < 0 then "-" else "+") ++ value.natAbs.repr

/-- `{:.3}%` of a count of thousandths of one percent, which is divided in binary64. -/
def percentText (milliPercent : Int) : String :=
  toFixed 3 (roundBinary64 (roundBinary64 milliPercent / 10 ^ 3)) ++ "%"

/-- The line of `print_metric`. -/
def metricLine (label : String) (metric : MetricComparison) : String :=
  label ++ ": baseline=" ++ metric.baseline.toNat.repr ++ " candidate=" ++
    metric.candidate.toNat.repr ++ " delta=" ++ signedText metric.delta.absoluteDelta ++ " (" ++
    (metric.delta.percentageDeltaMilliPercent.map percentText).getD "undefined" ++ ")"

/-- `print_metric`. -/
def printMetric (label : String) (metric : MetricComparison) : Cli Unit :=
  println (metricLine label metric)

/-- `{:?}` of a relationship. -/
def EnvironmentRelationship.debugName : EnvironmentRelationship → String
  | .same => "Same"
  | .different => "Different"
  | .unknown => "Unknown"

/-- The line of an environment field that is not the same on both sides. -/
def environmentLine (field : EnvironmentComparison) : String :=
  "  " ++ field.field ++ ": baseline=" ++ field.baseline.getD "unknown" ++ " candidate=" ++
    field.candidate.getD "unknown" ++ " (" ++ field.relationship.debugName ++ ")"

/-- The three metrics of a distribution. -/
def printDistribution (label : String) (distribution : DistributionComparison) : Cli Unit := do
  printMetric (label ++ " mean (µs)") distribution.mean
  printMetric (label ++ " p50 (µs)") distribution.p50
  printMetric (label ++ " p95 (µs)") distribution.p95

/-- The two lines on the resources of the helpers. -/
def printResources (resources : AttemptResourceComparison) : Cli Unit := do
  match resources.cpuTimeMicros with
  | some cpu => printMetric "whole-helper CPU time (µs)" cpu
  | none => println "whole-helper CPU time: not comparable (missing resource evidence)"
  match resources.peakRssBytes with
  | some rss => printMetric "whole-helper peak RSS (bytes)" rss
  | none => println "whole-helper peak RSS: not comparable (missing resource evidence)"

/-- `print_human_comparison` from the environment on, which only compatible bundles reach. -/
def printCompatible (comparison : EvidenceComparison) : Cli Unit := do
  let differences := comparison.environment.filter fun field => field.relationship ≠ .same
  println ("recorded environment differences/unknowns: " ++ differences.length.repr)
  differences.forM fun field => println (environmentLine field)
  let requests ← expect comparison.requests
  println ("measured requests: baseline=" ++ requests.baselineCount.toNat.repr ++
    " candidate=" ++ requests.candidateCount.toNat.repr)
  printDistribution "request latency" requests.latencyMicros
  printDistribution "request TTFT" requests.timeToFirstTokenMicros
  let repetitions ← expect comparison.repetitions
  println ("measured repetitions: baseline=" ++ repetitions.baselineCount.toNat.repr ++
    " candidate=" ++ repetitions.candidateCount.toNat.repr)
  printDistribution "repetition aggregate latency" repetitions.aggregateLatencyMicros
  printDistribution "repetition aggregate TTFT" repetitions.aggregateTimeToFirstTokenMicros
  printMetric "repetition mean throughput (mreq/s)"
    repetitions.meanThroughputMilliRequestsPerSecond
  printOptional comparison.attemptResources printResources
  println comparison.interpretation

/-- `print_human_comparison`. -/
def printHumanComparison (comparison : EvidenceComparison) : Cli Unit := do
  println ("baseline: " ++ comparison.baseline.runId ++ " (" ++
    lossyText comparison.baseline.bundlePath ++ ")")
  println ("candidate: " ++ comparison.candidate.runId ++ " (" ++
    lossyText comparison.candidate.bundlePath ++ ")")
  println ("measurement compatible: " ++ if comparison.compatible then "yes" else "no")
  if comparison.compatible then printCompatible comparison
  else do
    println ("incompatible dimensions: " ++ ", ".intercalate comparison.incompatibilities)
    println comparison.interpretation

end Benchplane
