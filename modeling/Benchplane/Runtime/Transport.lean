import Benchplane.Evidence.RecordFiles
import Benchplane.Runtime.AdapterAgreement
import Benchplane.Runtime.Scheduling
import Benchplane.Runtime.WorkBounds

/-!
# What the transport takes

The supervisor bounds the lines of a helper and its whole output in bytes.  Records of
a validated plan stay within both bounds whatever their numbers are: a 64-bit number
has at most twenty digits, and the plan bounds the observations of a record and the
records of a run.
-/

namespace Benchplane

open Library

/-! ## Reading an output -/

/-- The lines of an output in which every line is terminated. -/
theorem linesBy_flatMap {stop : UInt8} {lines : List Bytes} (h : ∀ line ∈ lines, stop ∉ line) :
    linesBy stop (lines.flatMap fun line => line ++ [stop]) = lines := by
  induction lines with
  | nil => rfl
  | cons line rest ih =>
      have hhead := h line List.mem_cons_self
      have htail := ih fun other hother => h other (List.mem_cons_of_mem _ hother)
      rw [List.flatMap_cons, List.append_assoc, List.singleton_append, linesBy_cons hhead, htail]

/-- Terminated lines of a bounded length make an output of a bounded length. -/
theorem length_flatMap_terminated_le {stop : UInt8} {lines : List Bytes} {bound : Nat}
    (h : ∀ line ∈ lines, line.length + 1 ≤ bound) :
    (lines.flatMap fun line => line ++ [stop]).length ≤ lines.length * bound := by
  induction lines with
  | nil => exact Nat.zero_le _
  | cons line rest ih =>
      have hhead := h line List.mem_cons_self
      have htail := ih fun other hother => h other (List.mem_cons_of_mem _ hother)
      simp only [List.flatMap_cons, List.length_append, List.length_cons, List.length_nil,
        Nat.add_mul]
      omega

/-- The reads of an output: pieces that are not empty and make up the whole. -/
structure Chunks (output : Bytes) (chunks : List Bytes) : Prop where
  nonempty : ∀ chunk ∈ chunks, chunk ≠ []
  flatten : chunks.flatten = output

/-- An output within the bounds is sent line by line, in whatever pieces it is read. -/
theorem readStdout_of_fits {protocol : ChildProtocol} {output : Bytes} {chunks : List Bytes}
    (hchunks : Chunks output chunks) (hsize : output.length ≤ protocol.maxStdoutBytes)
    (hlines : ∀ line ∈ linesBy 10 output, line.length + 1 ≤ protocol.maxRecordBytes) :
    readStdout protocol (chunks.map .ok) [] 0 = (linesBy 10 output).map .line ++ [.done] := by
  obtain ⟨sent, last, hread, hsends⟩ :=
    readStdout_sends protocol hchunks.nonempty List.not_mem_nil (Nat.zero_le _)
  rw [hread]
  rw [List.nil_append, Nat.zero_add, hchunks.flatten] at hsends
  rcases hsends with ⟨rfl, rfl, -⟩ | ⟨-, hover | ⟨line, hline, hlong⟩⟩
  · rfl
  · omega
  · have hshort := hlines line hline
    omega

/-! ## Complete outputs -/

/-- The lines of a helper: its metadata, and its records as compact JSON. -/
def printedLines (metadata : List Bytes) (records : List MeasurementRecord) : List Bytes :=
  metadata ++ records.map fun record => toVec record.toJson

/-- What a helper prints, every line terminated. -/
def helperOutput (metadata : List Bytes) (records : List MeasurementRecord) : Bytes :=
  (printedLines metadata records).flatMap fun line => line ++ [10]

section

variable (protocol : ChildProtocol) (validate : Validator)

/-- A complete output: the metadata lines that the protocol expects, each within the
bound of a line, and its records, each of them valid at its position. -/
structure IsComplete (metadata : List Bytes) (records : List MeasurementRecord) : Prop where
  metadataCount : metadata.length = protocol.expectedMetadataRecords
  metadataLine : ∀ line ∈ metadata, 10 ∉ line
  metadataFits : ∀ line ∈ metadata, line.length + 1 ≤ protocol.maxRecordBytes
  recordCount : records.length = protocol.expectedRecords
  validated : ∀ position (h : position < records.length),
    validate records[position] position = .ok ()

/-- The transport takes every complete output whose records satisfy `good`: the check
before the start passes, every valid record fits a line, and the reader sends every line
and no error, in whatever pieces it reads. -/
structure Transports (good : MeasurementRecord → Prop) : Prop where
  precheck : (protocol.expectedMetadataRecords + protocol.expectedRecords) *
    protocol.maxRecordBytes ≤ protocol.maxStdoutBytes
  record : ∀ record position, good record → validate record position = .ok () →
    (toVec record.toJson).length + 1 ≤ protocol.maxRecordBytes
  output : ∀ metadata records chunks, IsComplete protocol validate metadata records →
    (∀ record ∈ records, good record) → Chunks (helperOutput metadata records) chunks →
    readStdout protocol (chunks.map .ok) [] 0 =
      (printedLines metadata records).map .line ++ [.done]

end

/-- Bounds on the records and on their number bound the whole output. -/
theorem transports_of_bounds {protocol : ChildProtocol} {validate : Validator}
    {good : MeasurementRecord → Prop}
    (hprecheck : (protocol.expectedMetadataRecords + protocol.expectedRecords) *
      protocol.maxRecordBytes ≤ protocol.maxStdoutBytes)
    (hrecord : ∀ record position, good record → validate record position = .ok () →
      (toVec record.toJson).length + 1 ≤ protocol.maxRecordBytes) :
    Transports protocol validate good := by
  refine ⟨hprecheck, hrecord, ?_⟩
  intro metadata records chunks hcomplete hgood hchunks
  have hterminated : ∀ line ∈ printedLines metadata records, 10 ∉ line := by
    intro line hline
    rcases List.mem_append.mp hline with hmetadata | hprinted
    · exact hcomplete.metadataLine line hmetadata
    · obtain ⟨record, -, rfl⟩ := List.mem_map.mp hprinted
      exact (jsonLine_eq record.plainNumbers_toJson).2
  have hfits : ∀ line ∈ printedLines metadata records,
      line.length + 1 ≤ protocol.maxRecordBytes := by
    intro line hline
    rcases List.mem_append.mp hline with hmetadata | hprinted
    · exact hcomplete.metadataFits line hmetadata
    · obtain ⟨record, hmem, rfl⟩ := List.mem_map.mp hprinted
      obtain ⟨position, hposition, hat⟩ := List.mem_iff_getElem.mp hmem
      apply hrecord record position (hgood record hmem)
      rw [← hat]
      exact hcomplete.validated position hposition
  -- no printed line has a newline inside, so the reader finds the same lines
  have hlines : linesBy 10 (helperOutput metadata records) = printedLines metadata records :=
    linesBy_flatMap hterminated
  have hcount : (printedLines metadata records).length =
      protocol.expectedMetadataRecords + protocol.expectedRecords := by
    rw [printedLines, List.length_append, List.length_map, hcomplete.metadataCount,
      hcomplete.recordCount]
  -- as many lines as expected, none longer than a record may be
  have hsize : (helperOutput metadata records).length ≤ protocol.maxStdoutBytes := by
    calc (helperOutput metadata records).length
        ≤ (printedLines metadata records).length * protocol.maxRecordBytes :=
          length_flatMap_terminated_le hfits
      _ = (protocol.expectedMetadataRecords + protocol.expectedRecords) *
            protocol.maxRecordBytes := by rw [hcount]
      _ ≤ protocol.maxStdoutBytes := hprecheck
  rw [readStdout_of_fits hchunks hsize (by rwa [hlines]), hlines]

/-! ## The helpers -/

/-- A record of the CPU probe has nothing but its numbers. -/
theorem CpuProbe.length_record_le {config : CpuProbeConfig} {record : MeasurementRecord}
    {position : Nat} (hplain : record.requestObservations = [])
    (h : validateRecord config record position = .ok ()) :
    (toVec record.toJson).length + 1 ≤ maxSerializedRecordBytes := by
  have haccepted := validateRecord_eq_ok.mp h
  simp only [isAdapterRecord, Bool.and_eq_true, decide_eq_true_eq] at haccepted
  have hgenerator : record.generator = Schema.cpuProbeGeneratorVersion := by
    exact haccepted.1.1.1.1.1.1.1.1.1.1
  have hversion : Json.quoteSize Schema.cpuProbeGeneratorVersion = 25 := rfl
  have hline := length_jsonLine_measurement_le record
  rw [if_pos hplain, hgenerator, hversion, length_jsonLine] at hline
  show record.toJson.compact.utf8ByteSize + 1 ≤ 512
  omega

/-- A record of llama.cpp has an observation for every request of its repetition. -/
theorem LlamaCpp.length_record_le {config : LlamaCppConfig} {record : MeasurementRecord}
    {position : Nat} (hrequests : config.requests.toNat ≤ Schema.maxLlamaCppRequestObservations)
    (h : validateRecord config record position = .ok ()) :
    (toVec record.toJson).length + 1 ≤ maxSerializedRecordBytes := by
  obtain ⟨haccepted, hlength, -⟩ := validateRecord_eq_ok.mp h
  simp only [isAdapterRecord, Bool.and_eq_true, decide_eq_true_eq] at haccepted
  have hgenerator : record.generator = Schema.llamaCppGeneratorVersion := by
    exact haccepted.1.1.1.1.1.1.1.1.1.1
  have hversion : Json.quoteSize Schema.llamaCppGeneratorVersion = 33 := rfl
  have hbound : config.requests.toNat ≤ 84 := hrequests
  have hline := length_jsonLine_measurement_le record
  rw [hgenerator, hversion, length_jsonLine, hlength] at hline
  show record.toJson.compact.utf8ByteSize + 1 ≤ 16384
  split at hline
  · omega
  · omega

/-- The transport takes what the helper of a validated plan may print: for the CPU probe
records without observations, for llama.cpp any records, behind one metadata line for
CUDA. -/
theorem helperOutput_transported (plan : ResolvedExperiment)
    (hvalid : plan.experiment.validate = .ok ()) :
    (∀ tokens units, plan.experiment.spec.runtime = .cpuProbe tokens units →
      ∃ count, CpuProbe.expectedRecordCount (cpuProbeConfig plan tokens units) = .ok count ∧
        Transports (CpuProbe.protocol (cpuProbeConfig plan tokens units) count)
          (CpuProbe.validateRecord (cpuProbeConfig plan tokens units))
          (fun record => record.requestObservations = [])) ∧
    ∀ target model tokens, plan.experiment.spec.runtime = .llamaCpp target model tokens →
      ∃ count, LlamaCpp.expectedRecordCount (llamaCppConfig plan target tokens) = .ok count ∧
        Transports (LlamaCpp.protocol (llamaCppConfig plan target tokens) count)
          (LlamaCpp.validateRecord (llamaCppConfig plan target tokens)) (fun _ => True) := by
  have hnothing : ∀ errors, plan.experiment.ReportsNone errors := by
    intro errors error _
    simp [Experiment.reported, hvalid]
  constructor
  · intro tokens units hruntime
    have hbounds := (Experiment.reportsNone_cpuProbe hruntime).mp (hnothing _)
    refine ⟨_, CpuProbe.expectedRecordCount_of_bounds hbounds, ?_⟩
    apply transports_of_bounds
    · have hrecords := hbounds.records_le
      show (0 + (plan.experiment.spec.measurement.warmupRuns.toNat +
        plan.experiment.spec.measurement.repetitions.toNat)) * 512 ≤ 1024 * 1024
      omega
    · intro record position hplain haccepted
      exact CpuProbe.length_record_le hplain haccepted
  · intro target model tokens hruntime
    have hbounds := (Experiment.reportsNone_llamaCpp hruntime).mp (hnothing _)
    refine ⟨_, LlamaCpp.expectedRecordCount_of_bounds hbounds, ?_⟩
    apply transports_of_bounds
    · have hrecords := hbounds.records_le
      -- at most 16 records and the metadata of the device
      have hmetadata : (if target = .nvidiaCuda then 1 else 0) ≤ 1 := by
        split <;> omega
      show ((if target = .nvidiaCuda then 1 else 0) +
        (plan.experiment.spec.measurement.warmupRuns.toNat +
          plan.experiment.spec.measurement.repetitions.toNat)) * (16 * 1024) ≤ 17 * (16 * 1024)
      omega
    · intro record position _ haccepted
      have hrequests := Experiment.requests_le_of_llamaCpp hvalid hruntime
      exact LlamaCpp.length_record_le hrequests haccepted

namespace SampleOutput

def probePlan : ResolvedExperiment := .sample (.cpuProbe 1 1) Schema.cpuProbeWorkloadProfile

def probeRecord : MeasurementRecord := .sample Schema.cpuProbeGeneratorVersion 10 []

def cudaPlan : ResolvedExperiment :=
  .sample (.llamaCpp .nvidiaCuda Schema.llamaCppModelIdentity 1) Schema.llamaCppWorkloadProfile

def cudaRecord : MeasurementRecord := .sample Schema.llamaCppGeneratorVersion 10 [⟨1, 10, 1⟩]

def metadata : Bytes := [0x7b, 0x7d]

/-- The metadata line and the record come in two reads. -/
def chunks : List Bytes := [metadata ++ [10], toVec cudaRecord.toJson ++ [10]]

theorem chunks_helperOutput : Chunks (helperOutput [metadata] [cudaRecord]) chunks := by
  constructor
  · intro chunk hchunk
    rcases List.mem_cons.mp hchunk with rfl | hrest
    · exact List.append_ne_nil_of_right_ne_nil _ (by simp)
    · obtain rfl := List.mem_singleton.mp hrest
      exact List.append_ne_nil_of_right_ne_nil _ (by simp)
  · rw [chunks, helperOutput, printedLines, List.flatten_cons, List.flatten_cons]
    simp only [List.flatten_nil, List.map_cons, List.map_nil, List.cons_append, List.nil_append,
      List.flatMap_cons, List.flatMap_nil]

theorem complete : IsComplete (LlamaCpp.protocol (llamaCppConfig cudaPlan .nvidiaCuda 1) 1)
    (LlamaCpp.validateRecord (llamaCppConfig cudaPlan .nvidiaCuda 1)) [metadata] [cudaRecord] where
  metadataCount := rfl
  metadataLine := by
    intro line hline
    obtain rfl := List.mem_singleton.mp hline
    decide
  metadataFits := by
    intro line hline
    obtain rfl := List.mem_singleton.mp hline
    exact Nat.le_of_ble_eq_true rfl
  recordCount := rfl
  validated := by
    intro position hposition
    obtain rfl : position = 0 := by simpa using hposition
    rw [List.getElem_cons_zero]
    rfl

end SampleOutput

/-- One record of the CPU probe, and one of llama.cpp behind its metadata. -/
theorem helperOutput_transported_oneRecord :
    (toVec SampleOutput.probeRecord.toJson).length + 1 ≤ CpuProbe.maxSerializedRecordBytes ∧
      readStdout (LlamaCpp.protocol (llamaCppConfig SampleOutput.cudaPlan .nvidiaCuda 1) 1)
        (SampleOutput.chunks.map .ok) [] 0 =
      (printedLines [SampleOutput.metadata] [SampleOutput.cudaRecord]).map .line ++ [.done] := by
  constructor
  · obtain ⟨count, -, htransports⟩ :=
      (helperOutput_transported SampleOutput.probePlan rfl).1 1 1 rfl
    exact htransports.record SampleOutput.probeRecord 0 rfl rfl
  · obtain ⟨count, hcount, htransports⟩ :=
      (helperOutput_transported SampleOutput.cudaPlan rfl).2 .nvidiaCuda
        Schema.llamaCppModelIdentity 1 rfl
    have hone : LlamaCpp.expectedRecordCount (llamaCppConfig SampleOutput.cudaPlan .nvidiaCuda 1) =
        .ok 1 := LlamaCpp.expectedRecordCount_of_bounds (by constructor <;> decide)
    rw [hone] at hcount
    obtain rfl := Except.ok.inj hcount
    exact htransports.output [SampleOutput.metadata] [SampleOutput.cudaRecord]
      SampleOutput.chunks SampleOutput.complete (fun _ _ => trivial)
      SampleOutput.chunks_helperOutput

end Benchplane
