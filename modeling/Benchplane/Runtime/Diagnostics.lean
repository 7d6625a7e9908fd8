import Benchplane.Evidence.AcceptedEvidence
import Benchplane.Runtime.HelperResults

/-!
# The length of helper diagnostics

A failure record carries text that the helper can choose: its standard error, a
line that does not parse, a system message.  The supervisor and the CPU probe cut
every message at the bound of the diagnostics.  The constructor of the llama.cpp
adapter does not, and a refused metadata line puts the text of the decoder behind
its own words.
-/

namespace Benchplane

open Library

/-- The message of a failure keeps to the bound of the diagnostics. -/
def FailureRecord.Bounded (failure : FailureRecord) : Prop :=
  failure.message.toList.length ≤ maxDiagnosticChars

/-- Every failure record of an execution is bounded. -/
def BoundsDiagnostics (failure : Option FailureRecord) : Prop :=
  ∀ record, failure = some record → record.Bounded

theorem boundsDiagnostics_none : BoundsDiagnostics none := by
  intro record h
  contradiction

theorem boundsDiagnostics_some {record : FailureRecord} :
    BoundsDiagnostics (some record) ↔ record.Bounded := by
  constructor
  · intro h
    exact h record rfl
  · intro hbounded other h
    rw [← Option.some.inj h]
    exact hbounded

/-! ## The supervisor -/

/-- A failure record that the supervisor has made. -/
def FailureRecord.IsSupervision (failure : FailureRecord) : Prop :=
  ∃ code message, failure = supervisionFailure code message

/-- Every failure record of an execution has been made by the supervisor. -/
def FromSupervisor (failure : Option FailureRecord) : Prop :=
  ∀ record, failure = some record → record.IsSupervision

theorem fromSupervisor_none : FromSupervisor none := by
  intro record h
  contradiction

theorem fromSupervisor_some {record : FailureRecord} :
    FromSupervisor (some record) ↔ record.IsSupervision := by
  constructor
  · intro h
    exact h record rfl
  · intro hsupervision other h
    rw [← Option.some.inj h]
    exact hsupervision

theorem isSupervision_supervisionFailure (code message : String) :
    (supervisionFailure code message).IsSupervision :=
  ⟨code, message, rfl⟩

theorem FromSupervisor.bounded {failure : Option FailureRecord} (h : FromSupervisor failure) :
    BoundsDiagnostics failure := by
  intro record hrecord
  obtain ⟨code, message, rfl⟩ := h record hrecord
  exact length_takeChars_le maxDiagnosticChars message

section

variable {codec : Codec} {protocol : ChildProtocol} {validate : Validator}

/-- The loop ends with a failure of the supervisor, whatever the helper has sent. -/
theorem isSupervision_supervise {turns : List Turn} {state state' : Supervision}
    {failure : FailureRecord}
    (h : supervise codec protocol validate turns state = .failed state' failure) :
    failure.IsSupervision :=
  supervise_fails (fun _ => isSupervision_supervisionFailure _ _)
    (isSupervision_supervisionFailure _ _) h

/-- Appending the standard error makes a failure of the same kind: the whole text is cut
again. -/
theorem isSupervision_withDiagnostics {failure : FailureRecord} (h : failure.IsSupervision)
    (stderr : Bytes) : (withDiagnostics protocol failure stderr).IsSupervision := by
  obtain ⟨code, message, rfl⟩ := h
  unfold withDiagnostics
  split
  · exact isSupervision_supervisionFailure code _
  · exact isSupervision_supervisionFailure code message

theorem isSupervision_exitFailure (status : ExitStatus) (stderr : Bytes) :
    (exitFailure protocol status stderr).IsSupervision := by
  unfold exitFailure
  dsimp only
  split
  · exact isSupervision_supervisionFailure _ _
  · exact isSupervision_supervisionFailure _ _

/-- Every failure of an execution is one of the supervisor. -/
theorem fromSupervisor_execute (helper : HelperBehaviour) :
    FromSupervisor (ChildSupervisor.execute codec protocol validate helper).1.failure := by
  have hend := executed codec protocol validate helper
  generalize (ChildSupervisor.execute codec protocol validate helper).1 = execution at hend
  cases hend with
  | succeeded => exact fromSupervisor_none
  | refused | unspawned | miscounted | unmeasured =>
      exact fromSupervisor_some.mpr (isSupervision_supervisionFailure _ _)
  | exited => exact fromSupervisor_some.mpr (isSupervision_exitFailure _ _)
  | stopped stderr hloop =>
      exact fromSupervisor_some.mpr (isSupervision_withDiagnostics (isSupervision_supervise hloop) _)

/-! ## The first line -/

/-- The first line that the receiver gives. -/
def firstLine : List Turn → Option Bytes
  | [] => none
  | turn :: turns =>
      match turn.received with
      | .event (.line line) => some line
      | _ => firstLine turns

/-- A turn takes its line as metadata while metadata is expected. -/
theorem metadata_superviseTurn {turn : Turn} {state next : Supervision}
    (h : superviseTurn codec protocol validate turn state = (next, none)) :
    (∃ line, turn.received = .event (.line line) ∧
      next.metadata = if state.metadata.length < protocol.expectedMetadataRecords
        then state.metadata ++ [line] else state.metadata) ∨
    ((∀ line, turn.received ≠ .event (.line line)) ∧ next.metadata = state.metadata) := by
  have hpoll : ∀ (middle : Supervision), pollExit protocol turn.poll middle = (next, none) →
      next.metadata = middle.metadata := by
    intro middle hmiddle
    unfold pollExit at hmiddle
    split at hmiddle
    · rw [← (Prod.mk.inj hmiddle).1]
    · cases hanswer : turn.poll <;> rw [hanswer] at hmiddle
      · rw [← (Prod.mk.inj hmiddle).1]
      · rw [← (Prod.mk.inj hmiddle).1]
      · exact absurd (Prod.mk.inj hmiddle).2 (Option.some_ne_none _)
  -- a line goes to the metadata as long as some is expected
  have hline : ∀ line middle ends,
      receiveLine codec protocol validate line state = .ok (middle, ends) →
      middle.metadata = if state.metadata.length < protocol.expectedMetadataRecords
        then state.metadata ++ [line] else state.metadata := by
    intro line middle ends hmiddle
    simp only [receiveLine, bind_eq_ok_iff, rejectIf_eq_ok] at hmiddle
    obtain ⟨-, -, -, -, hmiddle⟩ := hmiddle
    split at hmiddle
    · rename_i hexpected
      rw [if_pos hexpected, ← (Prod.mk.inj (Except.ok.inj hmiddle)).1]
    · rename_i hexpected
      simp only [bind_eq_ok_iff, mapFailure_eq_ok, pure_eq_ok_iff, Prod.mk.injEq] at hmiddle
      obtain ⟨record, -, -, -, rfl, -⟩ := hmiddle
      rw [if_neg hexpected]
  unfold superviseTurn at h
  cases hreceived : turn.received with
  | timeout =>
      rw [hreceived, receive] at h
      exact Or.inr ⟨fun line => by simp, hpoll state h⟩
  | disconnected =>
      rw [hreceived, receive] at h
      exact Or.inr ⟨fun line => by simp, hpoll { state with stdoutDone := true } h⟩
  | event event =>
      cases event with
      | error message =>
          rw [hreceived, receive] at h
          exact absurd (Prod.mk.inj h).2 (Option.some_ne_none _)
      | done =>
          rw [hreceived, receive] at h
          exact Or.inr ⟨fun line => by simp, hpoll { state with stdoutDone := true } h⟩
      | line line =>
          rw [hreceived, receive] at h
          apply Or.inl
          refine ⟨line, rfl, ?_⟩
          cases hmiddle : receiveLine codec protocol validate line state with
          | error failure =>
              rw [hmiddle] at h
              exact absurd (Prod.mk.inj h).2 (Option.some_ne_none _)
          | ok middle =>
              obtain ⟨middle, ends⟩ := middle
              rw [hmiddle] at h
              rw [← hline line middle ends hmiddle]
              cases ends with
              | true => rw [← (Prod.mk.inj h).1]
              | false => exact hpoll middle h

/-- Where metadata is expected, the first metadata line is the first line received. -/
theorem head_metadata_supervise (hexpected : 0 < protocol.expectedMetadataRecords)
    {turns : List Turn} {state state' : Supervision} {reaped : ReapedChild} {line : Bytes}
    (h : supervise codec protocol validate turns state = .completed state' reaped)
    (hline : state'.metadata.head? = some line) :
    (state.metadata.head?.or (firstLine turns)) = some line := by
  induction turns generalizing state with
  | nil =>
      unfold supervise at h
      split at h
      · obtain ⟨rfl, -⟩ := SupervisionEnd.completed.inj h
        simp [hline]
      · contradiction
  | cons turn turns ih =>
      unfold supervise at h
      split at h
      · obtain ⟨rfl, -⟩ := SupervisionEnd.completed.inj h
        simp [hline]
      · split at h
        · contradiction
        · rename_i next hnext
          have hrest := ih h
          rcases metadata_superviseTurn hnext with ⟨received, hreceived, hmetadata⟩ |
              ⟨hreceived, hmetadata⟩
          · -- the turn's own line comes first, unless an older one does
            cases hold : state.metadata with
            | nil =>
                rw [hold, if_pos (by simpa using hexpected)] at hmetadata
                rw [hmetadata] at hrest
                simpa [firstLine, hreceived] using hrest
            | cons older more =>
                have hhead : next.metadata.head? = some older := by
                  rw [hmetadata, hold]
                  split <;> rfl
                simpa [hhead] using hrest
          · have hskip : firstLine (turn :: turns) = firstLine turns := by
              simp only [firstLine]
            rw [hskip, ← hmetadata]
            exact hrest

/-- The metadata of an execution without a failure begins with the first line received. -/
theorem head_metadata_execute (hexpected : 0 < protocol.expectedMetadataRecords)
    {helper : HelperBehaviour} {line : Bytes}
    (h : (ChildSupervisor.execute codec protocol validate helper).1.failure = none)
    (hline : (ChildSupervisor.execute codec protocol validate helper).1.metadata.head? =
      some line) :
    firstLine helper.turns = some line := by
  have hend := executed codec protocol validate helper
  generalize (ChildSupervisor.execute codec protocol validate helper).1 = execution
    at h hline hend
  cases hend with
  | succeeded hloop =>
      -- only a success hands the metadata on
      simpa [Supervision.start] using head_metadata_supervise hexpected hloop hline
  | refused | unspawned | miscounted | unmeasured | exited | stopped => contradiction

end

/-! ## The adapters -/

/-- The CPU probe's own failures are made like those of the supervisor. -/
theorem CpuProbe.fromSupervisor_execute (codec : Codec) (config : CpuProbeConfig)
    (helper : HelperBehaviour) :
    FromSupervisor (CpuProbe.execute codec config helper).failure := by
  have hfailure : ∀ message, (CpuProbe.protocolFailure message).IsSupervision := fun message =>
    isSupervision_supervisionFailure Schema.errorCpuProbeOutputInvalid message
  intro failure h
  exact CpuProbe.executeCommand_fails hfailure
    (fun _ => Benchplane.fromSupervisor_execute helper failure) h

namespace LlamaCpp

variable {codec : Codec} {config : LlamaCppConfig} {helper : HelperBehaviour}

/-- The message for a metadata line that the decoder refuses. -/
def malformedMetadata (error : String) : String :=
  "llama.cpp helper emitted malformed NVIDIA metadata: " ++ error

/-- The supervisor finds nothing wrong with the helper. -/
def Supervised (codec : Codec) (config : LlamaCppConfig) (helper : HelperBehaviour) : Prop :=
  ∃ count, expectedRecordCount config = .ok count ∧
    (ChildSupervisor.execute codec (protocol config count) (validateRecord config)
      helper).1.failure = none

/-- The helper gets through the supervisor, and its metadata line is refused with a text
that does not fit. -/
structure RefusesAtLength (codec : Codec) (config : LlamaCppConfig) (helper : HelperBehaviour) :
    Prop where
  target : config.target = .nvidiaCuda
  supervised : Supervised codec config helper
  refused : ∃ line error, firstLine helper.turns = some line ∧
    codec.nvidiaMetadata line = .error error ∧
    maxDiagnosticChars < (malformedMetadata error).toList.length

theorem bounded_executeCommand :
    BoundsDiagnostics (executeCommand codec config helper).failure := by
  intro failure h
  exact executeCommand_fails (fun _ hshort => hshort)
    (fun _ => (fromSupervisor_execute helper).bounded failure) h

/-- A CUDA helper that the supervisor accepts has one metadata line, its first. -/
theorem metadata_of_supervised (htarget : config.target = .nvidiaCuda)
    (h : Supervised codec config helper) :
    (executeCommand codec config helper).failure = none ∧
      ∃ line, (executeCommand codec config helper).metadata = [line] ∧
        firstLine helper.turns = some line := by
  obtain ⟨count, hcount, hfailure⟩ := h
  have hexpected : (protocol config count).expectedMetadataRecords = 1 := if_pos htarget
  have hcomplete := complete_execute hfailure
  obtain ⟨line, hmetadata⟩ := List.length_eq_one_iff.mp (hcomplete.metadata.trans hexpected)
  have hcommand : executeCommand codec config helper =
      (ChildSupervisor.execute codec (protocol config count) (validateRecord config)
        helper).1 := by
    simp only [executeCommand, hcount]
  rw [hcommand]
  refine ⟨hfailure, line, hmetadata, ?_⟩
  exact head_metadata_execute (by omega) hfailure (by simp [hmetadata])

theorem supervised_of_failure_eq_none
    (h : (executeCommand codec config helper).failure = none) :
    Supervised codec config helper := by
  unfold executeCommand at h
  split at h
  · contradiction
  · rename_i count hcount
    exact ⟨count, hcount, h⟩

/-- Metadata is refused by the decoder, or with a fixed text. -/
theorem bounded_parseNvidiaMetadata {bytes : Bytes} {decoded : String × NvidiaGpuProvenance}
    (h : codec.nvidiaMetadata bytes = .ok decoded) :
    FailsWith (fun message => message.toList.length ≤ 1024)
      (parseNvidiaMetadata codec bytes) := by
  unfold parseNvidiaMetadata
  refine FailsWith.bind (by rw [h]; exact failsWith_ok) ?_
  intro decoded _
  obtain ⟨format, gpu⟩ := decoded
  refine FailsWith.bind (.rejectIf (by decide)) ?_
  intro _ _
  exact failsWith_ok

theorem parseNvidiaMetadata_of_refused {bytes : Bytes} {error : String}
    (h : codec.nvidiaMetadata bytes = .error error) :
    parseNvidiaMetadata codec bytes = .error (malformedMetadata error) := by
  unfold parseNvidiaMetadata
  rw [h]
  rfl

/-- The llama.cpp adapter keeps the bound unless it puts a long decoder text behind its
own words. -/
theorem bounded_execute_iff :
    BoundsDiagnostics (execute codec config helper).failure ↔
      ¬ RefusesAtLength codec config helper := by
  constructor
  · intro hbounded hrefuses
    obtain ⟨line, error, hfirst, hdecoder, hlong⟩ := hrefuses.refused
    obtain ⟨hnone, metadata, hmetadata, hmetadataFirst⟩ :=
      metadata_of_supervised hrefuses.target hrefuses.supervised
    obtain rfl : metadata = line := Option.some.inj (hmetadataFirst.symm.trans hfirst)
    have hfailure : (execute codec config helper).failure =
        some (protocolFailure (malformedMetadata error)) := by
      unfold execute intoExecutionOutput
      simp only [hnone, hrefuses.target, hmetadata, parseNvidiaMetadata_of_refused hdecoder,
        refusedMetadata]
    have hmessage : (malformedMetadata error).toList.length ≤ maxDiagnosticChars :=
      hbounded _ hfailure
    omega
  · intro hrefuses
    have hfixed : ∀ (result : ChildExecution) (message : String), message.toList.length ≤ 1024 →
        BoundsDiagnostics (refusedMetadata result message).failure := by
      intro result message hmessage
      exact boundsDiagnostics_some.mpr hmessage
    have hcommand : BoundsDiagnostics (executeCommand codec config helper).failure :=
      bounded_executeCommand
    unfold execute intoExecutionOutput
    split
    · rename_i failure hfailure
      rwa [hfailure] at hcommand
    · rename_i hnone
      split
      · exact boundsDiagnostics_none
      · rename_i line htarget hmetadata
        obtain ⟨-, first, hsingle, hfirst⟩ :=
          metadata_of_supervised htarget (supervised_of_failure_eq_none hnone)
        obtain rfl : first = line := by simpa [hsingle] using hmetadata
        split
        · exact boundsDiagnostics_none
        · rename_i message hmessage
          apply hfixed
          -- a long text here is the one that the condition excludes
          cases hdecoder : codec.nvidiaMetadata first with
          | ok decoded => exact bounded_parseNvidiaMetadata hdecoder message hmessage
          | error error =>
              rw [parseNvidiaMetadata_of_refused hdecoder] at hmessage
              obtain rfl := Except.error.inj hmessage
              apply Nat.le_of_not_lt
              intro hlong
              exact hrefuses ⟨htarget, supervised_of_failure_eq_none hnone, first, error, hfirst,
                hdecoder, hlong⟩
      · exact hfixed _ _ (by decide)

end LlamaCpp

/-- The CPU probe's failures are bounded; those of llama.cpp are, except behind a refused
metadata line with a long text. -/
theorem helpers_boundDiagnostics_iff (codec : Codec) (probeConfig : CpuProbeConfig)
    (config : LlamaCppConfig) (helper : HelperBehaviour) :
    BoundsDiagnostics (CpuProbe.execute codec probeConfig helper).failure ∧
      (BoundsDiagnostics (LlamaCpp.execute codec config helper).failure ↔
        ¬ LlamaCpp.RefusesAtLength codec config helper) :=
  ⟨(CpuProbe.fromSupervisor_execute codec probeConfig helper).bounded,
    LlamaCpp.bounded_execute_iff⟩

/-! A CUDA helper that prints a metadata object whose one field has a given name, and a
good record behind it. -/
namespace SampleRefusal

def config : LlamaCppConfig := ⟨.nvidiaCuda, 1, 0, 1, 1, 60⟩

def metadataLine (name : String) : Bytes := utf8 ("\x7b\"" ++ name ++ "\":0\x7d")

/-- What the decoder says about the field, which ends before the colon. -/
def unknownField (name : String) : String :=
  "unknown field `" ++ name ++ "`, expected `format` or `nvidia` at line 1 column " ++
    (name.utf8ByteSize + 3).repr

def record : MeasurementRecord where
  generator := Schema.llamaCppGeneratorVersion
  attemptNumber := 1
  phase := .measured
  repetitionIndex := 1
  sampleIndex := 1
  latencyMicros := 5
  timeToFirstTokenMicros := 3
  throughputMilliRequestsPerSecond := 200
  successfulRequests := 1
  failedRequests := 0
  requestObservations := [⟨1, 5, 3⟩]

def recordLine : Bytes := toVec record.toJson

def codec (name : String) : Codec := { Codec.refusing with
  measurement := decodeKnown recordLine record
  nvidiaMetadata := fun bytes =>
    .error (if bytes = metadataLine name then unknownField name else "unknown record") }

def child : ReapedChild := ⟨.exited 0, .ok ⟨1500, 4096⟩⟩

def helper (name : String) : HelperBehaviour where
  spawn := .ok ()
  turns := [⟨.event (.line (metadataLine name)), .running⟩,
    ⟨.event (.line recordLine), .running⟩, ⟨.event .done, .reaped child⟩]
  terminationPoll := .running
  terminationWait := .running
  stderr := []

theorem length_recordLine : recordLine.length < 16384 := by
  have hsize := Json.utf8ByteSize_compact_le Json.boundsQuotes_quoteBound record.toJson
  rw [recordLine, toVec, length_utf8]
  refine lt_of_le_of_lt hsize ?_
  decide

/-- A metadata line that fits the protocol gets through the supervisor. -/
theorem supervised {name : String} (h : (metadataLine name).length < 16384) :
    LlamaCpp.Supervised (codec name) config (helper name) := by
  have hfits : ∀ line : Bytes, line.length < 16384 →
      ¬ line.length + 1 > (LlamaCpp.protocol config 1).maxRecordBytes :=
    fun _ hline => Nat.not_lt_of_le hline
  -- the two lines of the sample in their order, and then the end of its output
  have hmetadata : receiveLine (codec name) (LlamaCpp.protocol config 1)
      (LlamaCpp.validateRecord config) (metadataLine name) .start =
        .ok (⟨[metadataLine name], [], false, none, []⟩, true) := by
    simp only [receiveLine, bind_eq_ok_iff, rejectIf_eq_ok]
    exact ⟨(), by decide, (), hfits _ h, rfl⟩
  have hrecord : receiveLine (codec name) (LlamaCpp.protocol config 1)
      (LlamaCpp.validateRecord config) recordLine ⟨[metadataLine name], [], false, none, []⟩ =
        .ok (⟨[metadataLine name], [record], false, none, []⟩, false) := by
    simp only [receiveLine, bind_eq_ok_iff, rejectIf_eq_ok]
    refine ⟨(), show ¬ 1 ≥ 2 by decide, (), hfits _ length_recordLine, ?_⟩
    have hmetadataTaken : ¬ [metadataLine name].length <
        (LlamaCpp.protocol config 1).expectedMetadataRecords := show ¬ 1 < 1 by decide
    rw [if_neg hmetadataTaken]
    have hdecoded : (codec name).measurement recordLine = .ok record := by
      simp only [codec, decodeKnown_self]
    have hvalid : LlamaCpp.validateRecord config record 0 = .ok () := by rfl
    rw [hdecoded]
    simp only [bind_eq_ok_iff, mapFailure_eq_ok]
    exact ⟨record, rfl, (), hvalid, rfl⟩
  have hturns : supervise (codec name) (LlamaCpp.protocol config 1)
      (LlamaCpp.validateRecord config) (helper name).turns .start =
        .completed ⟨[metadataLine name], [record], true, some child,
          [.wait4 false (.reaped child), .wait4 false .running]⟩ child := by
    simp only [helper, supervise, Supervision.observed, superviseTurn, receive, hmetadata, hrecord]
    rfl
  refine ⟨1, by decide, ?_⟩
  unfold ChildSupervisor.execute
  rw [if_neg (by decide)]
  simp only [hturns]
  rfl

/-- The decoder quotes the name in full. -/
theorem length_malformedMetadata {name : String} (h : maxDiagnosticChars < name.toList.length) :
    maxDiagnosticChars < (LlamaCpp.malformedMetadata (unknownField name)).toList.length := by
  have happend : ∀ front back : String,
      (front ++ back).toList.length = front.toList.length + back.toList.length := by
    intro front back
    rw [String.toList_append, List.length_append]
  unfold LlamaCpp.malformedMetadata unknownField
  rw [happend, happend, happend, happend]
  exact Nat.lt_of_lt_of_le h (Nat.le_add_left_of_le (Nat.le_add_right_of_le
    (Nat.le_add_right_of_le (Nat.le_add_left _ _))))

end SampleRefusal

/-- The adapter's message for a metadata line with a long field name is above the bound. -/
theorem helpers_not_boundDiagnostics :
    ¬ ∀ codec probeConfig config helper,
      BoundsDiagnostics (CpuProbe.execute codec probeConfig helper).failure ∧
      BoundsDiagnostics (LlamaCpp.execute codec config helper).failure := by
  intro hclaim
  obtain ⟨name, hname⟩ : ∃ name : String, name = String.ofList (List.replicate 1100 'x') :=
    ⟨_, rfl⟩
  -- the name of the field is longer than any diagnostic may be
  have hchars : name.toList.length = 1100 := by
    rw [hname, String.toList_ofList, List.length_replicate]
  have hsize : (SampleRefusal.metadataLine name).length = 1106 := by
    have hx : ('x' : Char).utf8Size = 1 := by decide
    have hbytes : name.utf8ByteSize = 1100 := by
      rw [hname, utf8ByteSize_ofList, List.map_replicate, List.sum_replicate_nat, hx]
    rw [SampleRefusal.metadataLine, length_utf8, String.utf8ByteSize_append,
      String.utf8ByteSize_append, hbytes]
    rfl
  obtain ⟨-, hllama⟩ := hclaim (SampleRefusal.codec name) ⟨1, 0, 1, 1, 1, 60⟩
    SampleRefusal.config (SampleRefusal.helper name)
  have hlong : maxDiagnosticChars <
      (LlamaCpp.malformedMetadata (SampleRefusal.unknownField name)).toList.length :=
    SampleRefusal.length_malformedMetadata (by rw [hchars]; decide)
  have hsupervised : LlamaCpp.Supervised (SampleRefusal.codec name) SampleRefusal.config
      (SampleRefusal.helper name) := SampleRefusal.supervised (by rw [hsize]; decide)
  have hdecoder : (SampleRefusal.codec name).nvidiaMetadata (SampleRefusal.metadataLine name) =
      .error (SampleRefusal.unknownField name) := by
    simp [SampleRefusal.codec]
  exact LlamaCpp.bounded_execute_iff.mp hllama
    ⟨rfl, hsupervised, SampleRefusal.metadataLine name, SampleRefusal.unknownField name, rfl,
      hdecoder, hlong⟩

end Benchplane
