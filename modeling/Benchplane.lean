import Benchplane.Library.Bytes
import Benchplane.Library.SortedMap
import Benchplane.Library.Text
import Benchplane.Library.Decimal
import Benchplane.Library.Sha256
import Benchplane.Library.Rounding
import Benchplane.Library.JsonSize
import Benchplane.Library.UnixPath
import Benchplane.Library.FileTree
import Benchplane.Library.FileOperations
import Benchplane.Library.FaultyProgram
import Benchplane.Schema.Experiment
import Benchplane.Schema.Evidence
import Benchplane.Schema.Encoding
import Benchplane.Disk
import Benchplane.Resolution
import Benchplane.Execution
import Benchplane.Evidence.Inventory
import Benchplane.Evidence.InventorySoundness
import Benchplane.Evidence.InventoryWriter
import Benchplane.Evidence.InventoryRoundTrip
import Benchplane.Evidence.Measurements
import Benchplane.Provenance
import Benchplane.Evidence.Provenance
import Benchplane.Evidence.Verifier
import Benchplane.Evidence.VerifierSoundness
import Benchplane.Evidence.RecordFiles
import Benchplane.Evidence.Acceptance
import Benchplane.Evidence.AcceptedEvidence
import Benchplane.Runtime.LocalFake
import Benchplane.Runtime.ChildSupervisor
import Benchplane.Runtime.Scheduling
import Benchplane.Runtime.Reaping
import Benchplane.Runtime.CpuProbe
import Benchplane.Runtime.LlamaCpp
import Benchplane.Runtime.HelperResults
import Benchplane.Run.ExecutionKind
import Benchplane.Run.Lifecycle
import Benchplane.Run.RunError
import Benchplane.Run.Staging
import Benchplane.Run.Run
import Benchplane.Run.Chronicle
import Benchplane.Run.Steps
import Benchplane.Run.Course
import Benchplane.Run.Phases
import Benchplane.Run.Invariants
import Benchplane.Run.StagedTree
import Benchplane.Run.Publication
import Benchplane.Run.ProducedRecords
import Benchplane.Run.RequestSize
import Benchplane.Runtime.AdapterAgreement
import Benchplane.Runtime.WorkBounds
import Benchplane.Runtime.LlamaCppHelper
import Benchplane.Runtime.CpuProbeHelper
import Benchplane.Runtime.NvidiaDriver
import Benchplane.Runtime.ReportedMeans
import Benchplane.Runtime.NvidiaMetadata
import Benchplane.Runtime.NvidiaEmission
import Benchplane.Run.CapturedProvenance
import Benchplane.Evidence.MeasurementEdits
import Benchplane.Evidence.PanicSites
import Benchplane.Evidence.PanicFreedom
import Benchplane.Comparison.Compare
import Benchplane.Comparison.Eligible
import Benchplane.Comparison.Totality
import Benchplane.Library.Percentile
import Benchplane.Statistics
import Benchplane.Library.LengthPrefix
import Benchplane.Run.LifecycleRuns
import Benchplane.Runtime.FakeMetrics
import Benchplane.Evidence.InventoryNames
import Benchplane.Runtime.Diagnostics
import Benchplane.Comparison.Exchange
import Benchplane.Runtime.Transport
import Benchplane.Library.JsonDecode
import Benchplane.Schema.Decoding
import Benchplane.PlanIdentity
import Benchplane.Schema.RecordTexts
import Benchplane.Library.FileContents
import Benchplane.Evidence.Rehashing
import Benchplane.Comparison.Compatibility
import Benchplane.Comparison.Warmups
import Benchplane.Run.RetainedStaging
import Benchplane.Library.TreeGrowth
import Benchplane.Run.Footprint
import Benchplane.Library.Binary64
import Benchplane.Schema.ReportEncoding
import Benchplane.Cli.Printing
import Benchplane.Cli.Commands
import Benchplane.Relocation
import Benchplane.Library.Subtree
import Benchplane.Library.Lockstep
import Benchplane.Run.Reproducible
import Benchplane.Schema.RecordDecoding
import Benchplane.Library.TreePaths
import Benchplane.WorkingDisk
import Benchplane.Evidence.InventoryProgress
import Benchplane.Run.Tidy
import Benchplane.Run.Account
import Benchplane.Run.WorkingRun
import Benchplane.Run.ProducerAgreement
import Benchplane.Run.RecordSizes
import Benchplane.Runtime.SupervisorResults
import Benchplane.Run.SubmittedEvidence
import Benchplane.Run.PublishedEvidence
import Benchplane.Cli.Reports
import Benchplane.Cli.Agreement
import Benchplane.Cli.Archive
import Benchplane.Cli.Figures
import Benchplane.Cli.Whereabouts
