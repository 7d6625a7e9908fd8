import Benchplane.Runtime.ChildSupervisor

/-!
# Scheduling of the supervision

The reader cuts the helper's output into lines, and the loop receives them between its
polls for the exit.  How the output is divided into reads and how events and polls
interleave is up to the operating system.  The verdict of an execution is a function of
the output, the exit status and the accounting alone.
-/

namespace Benchplane

open Library

/-! ## The verdict on an output -/

/-- What an execution decides.  The resources of a failed one are not part of it. -/
structure Verdict where
  metadata : List Bytes
  measurements : List MeasurementRecord
  failureCode : Option String
  resources : Option ProcessResources
  deriving DecidableEq

def Verdict.failed (code : String) : Verdict := ⟨[], [], some code, none⟩

def ChildExecution.verdict (execution : ChildExecution) : Verdict where
  metadata := execution.metadata
  measurements := execution.measurements
  failureCode := execution.failure.map (·.code)
  resources := if execution.failure = none then execution.resources else none

section

variable (codec : Codec) (protocol : ChildProtocol) (validate : Validator)

/-- The lines of a complete output. -/
def ChildProtocol.expectedLines : Nat :=
  protocol.expectedMetadataRecords + protocol.expectedRecords

/-- The records of a complete output fit into what the reader takes. -/
def ChildProtocol.FitsTransport : Prop :=
  protocol.expectedLines * protocol.maxRecordBytes ≤ protocol.maxStdoutBytes

/-- A line that parses and validates at its index. -/
def acceptsRecord (line : Bytes) (index : Nat) : Bool :=
  match codec.measurement line with
  | .ok record => (validate record index).isOk
  | .error _ => false

/-- An output that is wrong whatever the exit status is. -/
def OutputFault (stdout : Bytes) : Prop :=
  (∃ line ∈ linesBy 10 stdout, protocol.maxRecordBytes ≤ line.length) ∨
    protocol.maxStdoutBytes < stdout.length ∨
    protocol.expectedLines < (linesBy 10 stdout).length ∨
    ∃ entry ∈ ((linesBy 10 stdout).drop protocol.expectedMetadataRecords).zipIdx,
      acceptsRecord codec validate entry.1 entry.2 = false

instance (stdout : Bytes) : Decidable (OutputFault codec protocol validate stdout) := by
  unfold OutputFault
  infer_instance

/-- The code of a helper that did not exit with success. -/
def ChildProtocol.exitCodeOf (status : ExitStatus) : String :=
  match status.code.bind fun code =>
      protocol.specialExitCodes.find? fun failure => failure.exitCode = code with
  | some special => special.failureCode
  | none => protocol.exitFailureCode

/-- The records of some lines. -/
def recordsOf (lines : List Bytes) : List MeasurementRecord :=
  lines.filterMap fun line => (codec.measurement line).toOption

/-- The verdict on an output, an exit status and an accounting result. -/
def verdictOn (stdout : Bytes) (child : ReapedChild) : Verdict :=
  if OutputFault codec protocol validate stdout then .failed protocol.outputFailureCode
  else if child.status.success = false then .failed (protocol.exitCodeOf child.status)
  else if (linesBy 10 stdout).length < protocol.expectedLines then
    .failed protocol.outputFailureCode
  else
    match child.resources with
    | .error _ => .failed protocol.resourceFailureCode
    | .ok resources =>
        ⟨(linesBy 10 stdout).take protocol.expectedMetadataRecords,
          recordsOf codec ((linesBy 10 stdout).drop protocol.expectedMetadataRecords), none,
          some resources⟩

end

/-! ## The reader -/

section

variable {protocol : ChildProtocol}

/-- The bytes of one read behind an unfinished line, whatever is read later. -/
theorem readChunk_sends (protocol : ChildProtocol) (chunk : Bytes) {line : Bytes} (hline : 10 ∉ line) :
    match readChunk protocol chunk line with
    | (events, some unfinished) => 10 ∉ unfinished ∧
        ∃ sent : List Bytes, events = sent.map .line ∧
          ∀ rest, linesBy 10 (line ++ chunk ++ rest) = sent ++ linesBy 10 (unfinished ++ rest)
    | (events, none) => ∃ (sent : List Bytes) (message : String),
        events = sent.map .line ++ [.error message] ∧
          ∀ rest, ∃ long ∈ linesBy 10 (line ++ chunk ++ rest),
            protocol.maxRecordBytes ≤ long.length := by
  induction chunk generalizing line with
  | nil => exact ⟨hline, [], rfl, by simp⟩
  | cons byte chunk ih =>
      by_cases hbyte : byte = 10
      · -- the line is complete and the next one starts empty
        subst hbyte
        have hlines : ∀ rest, linesBy 10 (line ++ 10 :: chunk ++ rest) =
            line :: linesBy 10 ([] ++ chunk ++ rest) := by
          intro rest
          rw [List.append_assoc, List.cons_append, linesBy_cons hline, List.nil_append]
        have hchunk := ih List.not_mem_nil
        rw [readChunk, if_pos rfl]
        split at hchunk
        · rename_i events unfinished heq
          obtain ⟨hunfinished, sent, rfl, hrest⟩ := hchunk
          rw [heq]
          exact ⟨hunfinished, line :: sent, rfl, fun rest => by rw [hlines, hrest]; rfl⟩
        · rename_i events heq
          obtain ⟨sent, message, rfl, hrest⟩ := hchunk
          rw [heq]
          refine ⟨line :: sent, message, rfl, fun rest => ?_⟩
          obtain ⟨long, hmem, hlong⟩ := hrest rest
          exact ⟨long, by rw [hlines]; exact List.mem_cons_of_mem _ hmem, hlong⟩
      · have hline' : 10 ∉ line ++ [byte] := by simp [hline, Ne.symm hbyte]
        have hsplit : ∀ rest, line ++ byte :: chunk ++ rest = line ++ [byte] ++ chunk ++ rest := by
          simp
        by_cases hlong : (line ++ [byte]).length ≥ protocol.maxRecordBytes
        · -- the line is too long, however it goes on
          rw [readChunk, if_neg hbyte, if_pos hlong]
          refine ⟨[], _, rfl, fun rest => ?_⟩
          obtain ⟨long, hmem, hlonger⟩ :=
            exists_line_of_notMem hline' (by simp) (chunk ++ rest)
          rw [hsplit, List.append_assoc (line ++ [byte])]
          exact ⟨long, hmem, by omega⟩
        · rw [readChunk, if_neg hbyte, if_neg hlong]
          simpa only [hsplit] using ih hline'

/-- The events of a reader whose reads gave `stdout`: its lines and the end, or some lines
and an error that the output deserves. -/
def Sends (protocol : ChildProtocol) (stdout : Bytes) (size : Nat) (sent : List Bytes)
    (last : StdoutEvent) : Prop :=
  (last = .done ∧ sent = linesBy 10 stdout ∧ size ≤ protocol.maxStdoutBytes) ∨
    (∃ message, last = .error message) ∧ (protocol.maxStdoutBytes < size ∨
      ∃ long ∈ linesBy 10 stdout, protocol.maxRecordBytes ≤ long.length)

/-- What the reader sends behind an unfinished line and `total` bytes. -/
theorem readStdout_sends (protocol : ChildProtocol) {chunks : List Bytes} (hchunks : ∀ chunk ∈ chunks, chunk ≠ [])
    {line : Bytes} (hline : 10 ∉ line) {total : Nat} (htotal : total ≤ protocol.maxStdoutBytes) :
    ∃ sent last, readStdout protocol (chunks.map .ok) line total = sent.map .line ++ [last] ∧
      Sends protocol (line ++ chunks.flatten) (total + chunks.flatten.length) sent last := by
  induction chunks generalizing line total with
  | nil =>
      simp only [List.map_nil, readStdout, finishStdout, List.flatten_nil, List.append_nil,
        List.length_nil, Nat.add_zero]
      by_cases hempty : line = []
      · exact ⟨[], .done, by simp [hempty], Or.inl ⟨rfl, by simp [hempty], htotal⟩⟩
      · exact ⟨[line], .done, by simp [hempty],
          Or.inl ⟨rfl, (linesBy_of_notMem hline hempty).symm, htotal⟩⟩
  | cons chunk chunks ih =>
      have hmore : ∀ other ∈ chunks, other ≠ [] := fun other hmem =>
        hchunks other (List.mem_cons_of_mem _ hmem)
      rw [List.map_cons, readStdout, if_neg (hchunks chunk List.mem_cons_self)]
      by_cases hsize : total + chunk.length > protocol.maxStdoutBytes
      · -- the whole read is over the limit, whatever lines it has
        rw [if_pos hsize]
        refine ⟨[], _, rfl, Or.inr ⟨⟨_, rfl⟩, Or.inl ?_⟩⟩
        rw [List.flatten_cons, List.length_append]
        omega
      · rw [if_neg hsize]
        have hchunk := readChunk_sends protocol chunk hline
        split at hchunk
        · rename_i events unfinished heq
          obtain ⟨hunfinished, sent, rfl, hlines⟩ := hchunk
          have hfits : total + chunk.length ≤ protocol.maxStdoutBytes := by omega
          obtain ⟨sent', last, hsent', hsends⟩ := ih hmore hunfinished hfits
          rw [heq]
          refine ⟨sent ++ sent', last, by simp [hsent'], ?_⟩
          rw [List.flatten_cons, List.length_append, ← List.append_assoc, ← Nat.add_assoc]
          rcases hsends with ⟨rfl, rfl, hfits⟩ | ⟨herror, hover | ⟨long, hmem, hlong⟩⟩
          · exact Or.inl ⟨rfl, (hlines _).symm, hfits⟩
          · exact Or.inr ⟨herror, Or.inl hover⟩
          · refine Or.inr ⟨herror, Or.inr ⟨long, ?_, hlong⟩⟩
            rw [hlines]
            exact List.mem_append_right _ hmem
        · rename_i events heq
          obtain ⟨sent, message, rfl, hlong⟩ := hchunk
          rw [heq]
          refine ⟨sent, _, rfl, Or.inr ⟨⟨message, rfl⟩, Or.inr ?_⟩⟩
          rw [List.flatten_cons, ← List.append_assoc]
          exact hlong chunks.flatten

end

/-! ## The loop -/

/-- An order of turns: the events arrive in the order they were sent, with empty turns
anywhere, the channel is closed behind them, and the process is running or has been
reaped.  The turns may stop anywhere. -/
inductive Interleaves (child : ReapedChild) : List StdoutEvent → List Turn → Prop where
  | nil {events : List StdoutEvent} : Interleaves child events []
  | timeout {events : List StdoutEvent} {turns : List Turn} {poll : WaitResult}
      (hpoll : poll = .running ∨ poll = .reaped child) (h : Interleaves child events turns) :
      Interleaves child events (⟨.timeout, poll⟩ :: turns)
  | event {event : StdoutEvent} {events : List StdoutEvent} {turns : List Turn}
      {poll : WaitResult} (hpoll : poll = .running ∨ poll = .reaped child)
      (h : Interleaves child events turns) :
      Interleaves child (event :: events) (⟨.event event, poll⟩ :: turns)
  | disconnected {turns : List Turn} {poll : WaitResult}
      (hpoll : poll = .running ∨ poll = .reaped child) (h : Interleaves child [] turns) :
      Interleaves child [] (⟨.disconnected, poll⟩ :: turns)

section

variable {codec : Codec} {protocol : ChildProtocol} {validate : Validator}

/-- The turns are over while the loop still waits. -/
def ReachesDeadline (codec : Codec) (protocol : ChildProtocol) (validate : Validator) :
    List Turn → Supervision → Prop
  | [], state => state.observed = none
  | turn :: turns, state => state.observed = none ∧
      ∃ next, superviseTurn codec protocol validate turn state = (next, none) ∧
        ReachesDeadline codec protocol validate turns next

instance ReachesDeadline.decidable (codec : Codec) (protocol : ChildProtocol)
    (validate : Validator) :
    ∀ turns state, Decidable (ReachesDeadline codec protocol validate turns state)
  | [], state => inferInstanceAs (Decidable (state.observed = none))
  | turn :: turns, state =>
      match h : superviseTurn codec protocol validate turn state with
      | (_, some _) => isFalse fun ⟨_, _, hnext, _⟩ => by simp [h] at hnext
      | (next, none) =>
          have := ReachesDeadline.decidable codec protocol validate turns next
          decidable_of_iff
            (state.observed = none ∧ ReachesDeadline codec protocol validate turns next)
            ⟨fun ⟨hwaits, hnext⟩ => ⟨hwaits, next, h, hnext⟩, fun ⟨hwaits, _, hsame, hnext⟩ =>
              ⟨hwaits, (Prod.mk.inj (h.symm.trans hsame)).1 ▸ hnext⟩⟩

/-- Lines that the loop accepts one after the other. -/
structure AcceptableLines (codec : Codec) (protocol : ChildProtocol) (validate : Validator)
    (done : List Bytes) : Prop where
  few : done.length ≤ protocol.expectedLines
  short : ∀ line ∈ done, line.length < protocol.maxRecordBytes
  accepted : ∀ i line, (done.drop protocol.expectedMetadataRecords)[i]? = some line →
    acceptsRecord codec validate line i = true

/-- The lines behind are those that the state has collected. -/
structure Collected (codec : Codec) (protocol : ChildProtocol) (validate : Validator)
    (done : List Bytes) (state : Supervision) : Prop where
  acceptable : AcceptableLines codec protocol validate done
  metadata : state.metadata = done.take protocol.expectedMetadataRecords
  measurements : state.measurements =
    recordsOf codec (done.drop protocol.expectedMetadataRecords)

theorem AcceptableLines.of_append {front back : List Bytes}
    (h : AcceptableLines codec protocol validate (front ++ back)) :
    AcceptableLines codec protocol validate front where
  few := by
    have hfew := h.few
    rw [List.length_append] at hfew
    omega
  short line hmem := h.short line (List.mem_append_left _ hmem)
  accepted i line hline := by
    refine h.accepted i line ?_
    rw [List.getElem?_drop] at hline ⊢
    rw [List.getElem?_append_left (List.getElem?_eq_some_iff.mp hline).1]
    exact hline

theorem exists_record_of_accepts {line : Bytes} {index : Nat}
    (h : acceptsRecord codec validate line index = true) :
    ∃ record, codec.measurement line = .ok record ∧ validate record index = .ok () := by
  unfold acceptsRecord at h
  split at h
  · rename_i record hrecord
    obtain ⟨⟨⟩, hvalid⟩ := exists_of_isOk h
    exact ⟨record, hrecord, hvalid⟩
  · contradiction

/-- Every accepted line gives one record. -/
theorem length_recordsOf {lines : List Bytes}
    (h : ∀ i line, lines[i]? = some line → acceptsRecord codec validate line i = true) :
    (recordsOf codec lines).length = lines.length := by
  have hall : ∀ line ∈ lines, ∃ record, codec.measurement line = .ok record := by
    intro line hmem
    obtain ⟨i, hi⟩ := List.mem_iff_getElem?.mp hmem
    obtain ⟨record, hrecord, -⟩ := exists_record_of_accepts (h i line hi)
    exact ⟨record, hrecord⟩
  clear h
  induction lines with
  | nil => rfl
  | cons line lines ih =>
      obtain ⟨record, hrecord⟩ := hall line List.mem_cons_self
      have htail := ih fun other hmem => hall other (List.mem_cons_of_mem _ hmem)
      simpa [recordsOf, hrecord, Except.toOption] using htail

theorem Collected.length_measurements {done : List Bytes} {state : Supervision}
    (h : Collected codec protocol validate done state) :
    state.measurements.length = done.length - protocol.expectedMetadataRecords := by
  rw [h.measurements, length_recordsOf h.acceptable.accepted, List.length_drop]

theorem Collected.length_metadata {done : List Bytes} {state : Supervision}
    (h : Collected codec protocol validate done state) :
    state.metadata.length = min protocol.expectedMetadataRecords done.length := by
  rw [h.metadata, List.length_take]

/-- As many lines have been collected as records are kept. -/
theorem Collected.emitted {done : List Bytes} {state : Supervision}
    (h : Collected codec protocol validate done state) :
    state.metadata.length + state.measurements.length = done.length := by
  rw [h.length_metadata, h.length_measurements]
  omega

/-- A line that the loop takes extends the lines it has collected. -/
theorem Collected.receiveLine_ok {done : List Bytes} {state state' : Supervision} {line : Bytes}
    {ends : Bool} (h : Collected codec protocol validate done state)
    (hok : receiveLine codec protocol validate line state = .ok (state', ends)) :
    Collected codec protocol validate (done ++ [line]) state' ∧
      state'.stdoutDone = state.stdoutDone ∧ state'.exitStatus = state.exitStatus := by
  simp only [receiveLine, bind_eq_ok_iff, rejectIf_eq_ok, h.emitted] at hok
  obtain ⟨-, hfew, -, hshort, hok⟩ := hok
  have hacceptable : (∀ i other,
      ((done ++ [line]).drop protocol.expectedMetadataRecords)[i]? = some other →
        acceptsRecord codec validate other i = true) →
      AcceptableLines codec protocol validate (done ++ [line]) := by
    refine fun haccepted => ⟨?_, ?_, haccepted⟩
    · simp only [List.length_append, List.length_singleton, ChildProtocol.expectedLines]
      omega
    · intro other hmem
      rcases List.mem_append.mp hmem with hold | hnew
      · exact h.acceptable.short other hold
      · obtain rfl := List.mem_singleton.mp hnew
        omega
  rw [h.length_metadata] at hok
  by_cases hmetadata : done.length < protocol.expectedMetadataRecords
  · -- a metadata record
    rw [if_pos (by omega)] at hok
    obtain ⟨rfl, -⟩ := Prod.mk.inj (Except.ok.inj hok)
    have hlength : (done ++ [line]).length ≤ protocol.expectedMetadataRecords := by
      simp only [List.length_append, List.length_singleton]
      omega
    have hdone : done.length ≤ protocol.expectedMetadataRecords := by omega
    have hnone : (done ++ [line]).drop protocol.expectedMetadataRecords = [] :=
      List.drop_eq_nil_of_le hlength
    refine ⟨⟨hacceptable (by simp [hnone]), ?_, ?_⟩, rfl, rfl⟩
    · show state.metadata ++ [line] = _
      rw [h.metadata, List.take_of_length_le hdone, List.take_of_length_le hlength]
    · show state.measurements = _
      rw [h.measurements, hnone, List.drop_eq_nil_of_le hdone]
  · -- a measurement record
    rw [if_neg (by omega)] at hok
    simp only [bind_eq_ok_iff, mapFailure_eq_ok, pure_eq_ok_iff, Prod.mk.injEq] at hok
    obtain ⟨record, hrecord, ⟨⟩, hvalid, rfl, -⟩ := hok
    have hbehind : protocol.expectedMetadataRecords ≤ done.length := by omega
    have hdrop : (done ++ [line]).drop protocol.expectedMetadataRecords =
        done.drop protocol.expectedMetadataRecords ++ [line] :=
      List.drop_append_of_le_length hbehind
    refine ⟨⟨hacceptable ?_, ?_, ?_⟩, rfl, rfl⟩
    · rw [hdrop]
      intro i other hother
      rcases Nat.lt_or_ge i (done.drop protocol.expectedMetadataRecords).length with hlt | hge
      · rw [List.getElem?_append_left hlt] at hother
        exact h.acceptable.accepted i other hother
      · -- the new record is validated at its own index
        rw [List.getElem?_append_right hge, List.getElem?_singleton] at hother
        obtain ⟨hzero, hsame⟩ := Option.ite_none_right_eq_some.mp hother
        obtain rfl := Option.some.inj hsame
        have hindex : i = state.measurements.length := by
          rw [h.length_measurements, ← List.length_drop]
          omega
        subst hindex
        simp [acceptsRecord, hrecord, hvalid, Except.isOk, Except.toBool]
    · show state.metadata = _
      rw [h.metadata, List.take_append_of_le_length hbehind]
    · show state.measurements ++ [record] = _
      rw [h.measurements, hdrop]
      simp [recordsOf, hrecord, Except.toOption]

/-- A line that the loop refuses would not have been acceptable. -/
theorem Collected.receiveLine_error {done : List Bytes} {state : Supervision} {line : Bytes}
    {failure : FailureRecord} (h : Collected codec protocol validate done state)
    (herror : receiveLine codec protocol validate line state = .error failure) :
    failure.code = protocol.outputFailureCode ∧
      ¬ AcceptableLines codec protocol validate (done ++ [line]) := by
  unfold receiveLine at herror
  rw [h.emitted, h.length_metadata] at herror
  by_cases hfew : done.length ≥ protocol.expectedMetadataRecords + protocol.expectedRecords
  · rw [rejectIf, if_pos hfew] at herror
    refine ⟨Except.error.inj herror ▸ rfl, fun hacceptable => ?_⟩
    have hlength := hacceptable.few
    simp only [List.length_append, List.length_singleton, ChildProtocol.expectedLines] at hlength
    omega
  rw [rejectIf, if_neg hfew] at herror
  by_cases hshort : line.length + 1 > protocol.maxRecordBytes
  · rw [rejectIf, if_pos hshort] at herror
    refine ⟨Except.error.inj herror ▸ rfl, fun hacceptable => ?_⟩
    have hline := hacceptable.short line (by simp)
    omega
  rw [rejectIf, if_neg hshort] at herror
  by_cases hmetadata : done.length < protocol.expectedMetadataRecords
  · simp only [bind, Except.bind, pure, Except.pure] at herror
    rw [if_pos (by omega)] at herror
    contradiction
  simp only [bind, Except.bind, pure, Except.pure] at herror
  rw [if_neg (by omega)] at herror
  -- the line stands at the index of the next measurement
  have hindex : ((done ++ [line]).drop protocol.expectedMetadataRecords)[state.measurements.length]? =
      some line := by
    rw [List.getElem?_drop, h.length_measurements, Nat.add_sub_cancel' (by omega)]
    exact List.getElem?_concat_length
  have hrefused : acceptsRecord codec validate line state.measurements.length = false →
      ¬ AcceptableLines codec protocol validate (done ++ [line]) := by
    intro hfalse hacceptable
    have htrue := hacceptable.accepted _ _ hindex
    rw [hfalse] at htrue
    contradiction
  cases hrecord : codec.measurement line with
  | error message =>
      rw [hrecord] at herror
      refine ⟨Except.error.inj herror ▸ rfl, hrefused ?_⟩
      simp [acceptsRecord, hrecord]
  | ok record =>
      rw [hrecord] at herror
      simp only [mapFailure] at herror
      cases hvalid : validate record state.measurements.length with
      | error message =>
          rw [hvalid] at herror
          refine ⟨Except.error.inj herror ▸ rfl, hrefused ?_⟩
          simp [acceptsRecord, hrecord, hvalid, Except.isOk, Except.toBool]
      | ok =>
          rw [hvalid] at herror
          contradiction

/-! ### Turns -/

/-- A poll for the exit changes nothing that has been collected. -/
theorem Collected.pollExit {child : ReapedChild} {done : List Bytes} {state : Supervision}
    {poll : WaitResult} (h : Collected codec protocol validate done state)
    (hstatus : state.exitStatus = none ∨ state.exitStatus = some child)
    (hpoll : poll = .running ∨ poll = .reaped child) :
    ∃ next, Benchplane.pollExit protocol poll state = (next, none) ∧
      Collected codec protocol validate done next ∧ next.stdoutDone = state.stdoutDone ∧
      (next.exitStatus = none ∨ next.exitStatus = some child) := by
  unfold Benchplane.pollExit
  rcases hstatus with hnone | hsome
  · rw [hnone]
    rcases hpoll with rfl | rfl
    · exact ⟨_, rfl, ⟨h.acceptable, h.metadata, h.measurements⟩, rfl, Or.inl rfl⟩
    · exact ⟨_, rfl, ⟨h.acceptable, h.metadata, h.measurements⟩, rfl, Or.inr rfl⟩
  · rw [hsome]
    exact ⟨state, rfl, h, rfl, Or.inr hsome⟩

/-- A line is collected, or it fails the supervision and would not have been acceptable. -/
theorem Collected.lineTurn {child : ReapedChild} {done : List Bytes} {state : Supervision}
    {line : Bytes} {poll : WaitResult} (h : Collected codec protocol validate done state)
    (hstatus : state.exitStatus = none ∨ state.exitStatus = some child)
    (hpoll : poll = .running ∨ poll = .reaped child) :
    (∃ next, superviseTurn codec protocol validate ⟨.event (.line line), poll⟩ state =
        (next, none) ∧ Collected codec protocol validate (done ++ [line]) next ∧
      next.stdoutDone = state.stdoutDone ∧
      (next.exitStatus = none ∨ next.exitStatus = some child)) ∨
    ∃ failure, superviseTurn codec protocol validate ⟨.event (.line line), poll⟩ state =
        (state, some failure) ∧ failure.code = protocol.outputFailureCode ∧
      ¬ AcceptableLines codec protocol validate (done ++ [line]) := by
  cases hreceive : receiveLine codec protocol validate line state with
  | error failure =>
      obtain ⟨hcode, hrefused⟩ := h.receiveLine_error hreceive
      simp only [superviseTurn, receive, hreceive]
      exact Or.inr ⟨failure, rfl, hcode, hrefused⟩
  | ok received =>
      obtain ⟨received, ends⟩ := received
      obtain ⟨hcollected, hsame, hexit⟩ := h.receiveLine_ok hreceive
      have hreceived : received.exitStatus = none ∨ received.exitStatus = some child :=
        hexit.symm ▸ hstatus
      simp only [superviseTurn, receive, hreceive]
      refine Or.inl ?_
      cases ends with
      | true => exact ⟨received, rfl, hcollected, hsame, hreceived⟩  -- no poll behind metadata
      | false =>
          obtain ⟨next, hnext, hkept, hstill, hnow⟩ := hcollected.pollExit hreceived hpoll
          exact ⟨next, hnext, hkept, hstill.trans hsame, hnow⟩

theorem not_reachesDeadline_next {turn : Turn} {turns : List Turn} {state next : Supervision}
    (h : ¬ ReachesDeadline codec protocol validate (turn :: turns) state)
    (hwaits : state.observed = none)
    (hturn : superviseTurn codec protocol validate turn state = (next, none)) :
    ¬ ReachesDeadline codec protocol validate turns next :=
  fun hnext => h ⟨hwaits, next, hturn, hnext⟩

/-- How the loop ends on the lines and the last event that the reader sends. -/
def EndsFor (codec : Codec) (protocol : ChildProtocol) (validate : Validator)
    (sent : List Bytes) (last : StdoutEvent) (child : ReapedChild) : SupervisionEnd → Prop
  | .completed state reaped =>
      reaped = child ∧ last = .done ∧ Collected codec protocol validate sent state
  | .failed _ failure => failure.code = protocol.outputFailureCode ∧
      (last = .done → ¬ AcceptableLines codec protocol validate sent)

/-- Behind the end of the output the loop only waits for the exit. -/
theorem endsFor_of_stdoutDone {child : ReapedChild} {sent : List Bytes} {turns : List Turn}
    {state : Supervision} (h : Collected codec protocol validate sent state)
    (hdone : state.stdoutDone = true)
    (hstatus : state.exitStatus = none ∨ state.exitStatus = some child)
    (hturns : Interleaves child [] turns)
    (hdeadline : ¬ ReachesDeadline codec protocol validate turns state) :
    EndsFor codec protocol validate sent .done child
      (supervise codec protocol validate turns state) := by
  induction turns generalizing state with
  | nil =>
      rcases hstatus with hnone | hsome
      · exact absurd (show state.observed = none by simp [Supervision.observed, hnone]) hdeadline
      · have hobserved : state.observed = some child := by simp [Supervision.observed, hdone, hsome]
        rw [supervise, hobserved]
        exact ⟨rfl, rfl, h⟩
  | cons turn turns ih =>
      rcases hstatus with hnone | hsome
      · have hwaits : state.observed = none := by simp [Supervision.observed, hnone]
        rw [supervise, hwaits]
        -- nothing is received any more, so the turn is its poll
        have hturn : ∃ next, superviseTurn codec protocol validate turn state = (next, none) ∧
            Collected codec protocol validate sent next ∧ next.stdoutDone = true ∧
            (next.exitStatus = none ∨ next.exitStatus = some child) ∧
            Interleaves child [] turns := by
          cases hturns with
          | timeout hpoll hmore =>
              obtain ⟨next, hnext, hcollected, hsame, hexit⟩ := h.pollExit (Or.inl hnone) hpoll
              exact ⟨next, hnext, hcollected, hsame.trans hdone, hexit, hmore⟩
          | disconnected hpoll hmore =>
              have hclosed : Collected codec protocol validate sent
                  { state with stdoutDone := true } := ⟨h.acceptable, h.metadata, h.measurements⟩
              obtain ⟨next, hnext, hcollected, hsame, hexit⟩ :=
                hclosed.pollExit (Or.inl hnone) hpoll
              exact ⟨next, hnext, hcollected, hsame, hexit, hmore⟩
        obtain ⟨next, hnext, hcollected, hstill, hexit, hmore⟩ := hturn
        have hlater := not_reachesDeadline_next hdeadline hwaits hnext
        simp only [hnext]
        exact ih hcollected hstill hexit hmore hlater
      · have hobserved : state.observed = some child := by simp [Supervision.observed, hdone, hsome]
        rw [supervise, hobserved]
        exact ⟨rfl, rfl, h⟩

/-- The loop on a reader that still has something to send. -/
theorem endsFor_of_pending {child : ReapedChild} {done rest : List Bytes} {last : StdoutEvent}
    {turns : List Turn} {state : Supervision}
    (hlast : last = .done ∨ ∃ message, last = .error message)
    (h : Collected codec protocol validate done state) (hwaiting : state.stdoutDone = false)
    (hstatus : state.exitStatus = none ∨ state.exitStatus = some child)
    (hturns : Interleaves child (rest.map .line ++ [last]) turns)
    (hdeadline : ¬ ReachesDeadline codec protocol validate turns state) :
    EndsFor codec protocol validate (done ++ rest) last child
      (supervise codec protocol validate turns state) := by
  have hwaits : state.observed = none := by simp [Supervision.observed, hwaiting]
  induction turns generalizing state done rest with
  | nil => exact absurd hwaits hdeadline
  | cons turn turns ih =>
      rw [supervise, hwaits]
      generalize hpending : rest.map StdoutEvent.line ++ [last] = pending at hturns
      cases hturns with
      | timeout hpoll hmore =>
          obtain ⟨next, hnext, hcollected, hsame, hexit⟩ := h.pollExit hstatus hpoll
          have hturn : superviseTurn codec protocol validate ⟨.timeout, _⟩ state = (next, none) :=
            hnext
          have hlater := not_reachesDeadline_next hdeadline hwaits hturn
          simp only [hturn]
          have hnow : next.stdoutDone = false := hsame.trans hwaiting
          exact ih hcollected hnow hexit (hpending ▸ hmore) hlater
            (by simp [Supervision.observed, hnow])
      | disconnected hpoll hmore => simp at hpending
      | event hpoll hmore =>
          cases rest with
          | nil =>
              -- the last event ends the output or fails the supervision
              obtain ⟨rfl, rfl⟩ := List.cons.inj hpending
              rcases hlast with rfl | ⟨message, rfl⟩
              · have hclosed : Collected codec protocol validate done
                    { state with stdoutDone := true } :=
                  ⟨h.acceptable, h.metadata, h.measurements⟩
                obtain ⟨next, hnext, hcollected, hsame, hexit⟩ := hclosed.pollExit hstatus hpoll
                have hturn : superviseTurn codec protocol validate ⟨.event .done, _⟩ state =
                    (next, none) := hnext
                have hlater := not_reachesDeadline_next hdeadline hwaits hturn
                simp only [hturn, List.append_nil]
                exact endsFor_of_stdoutDone hcollected hsame hexit hmore hlater
              · exact ⟨rfl, fun hfalse => by contradiction⟩
          | cons line rest =>
              obtain ⟨rfl, hrest⟩ := List.cons.inj hpending
              have hassoc : done ++ line :: rest = done ++ [line] ++ rest := by simp
              rw [hassoc]
              rcases h.lineTurn hstatus hpoll with
                ⟨next, hnext, hcollected, hsame, hexit⟩ | ⟨failure, hfailed, hcode, hrefused⟩
              · have hlater := not_reachesDeadline_next hdeadline hwaits hnext
                have hnow : next.stdoutDone = false := hsame.trans hwaiting
                simp only [hnext]
                subst hrest
                exact ih hcollected hnow hexit hmore hlater
                  (by simp [Supervision.observed, hnow])
              · -- every output that begins with these lines is refused
                simp only [hfailed]
                exact ⟨hcode, fun _ hacceptable => hrefused hacceptable.of_append⟩

/-! ## The whole execution -/

/-- The lines and the last event tell whether the output has a fault. -/
theorem outputFault_iff (codec : Codec) (validate : Validator) {stdout : Bytes} {sent : List Bytes} {last : StdoutEvent}
    (h : Sends protocol stdout stdout.length sent last) :
    OutputFault codec protocol validate stdout ↔
      (last = .done → ¬ AcceptableLines codec protocol validate sent) := by
  rcases h with ⟨rfl, rfl, hsize⟩ | ⟨⟨message, rfl⟩, hfault⟩
  · constructor
    · rintro hfault - hacceptable
      -- each fault of the output is one that acceptable lines do not have
      rcases hfault with ⟨line, hmem, hlong⟩ | hover | hmany | ⟨⟨line, i⟩, hmem, hrefused⟩
      · have hshort := hacceptable.short line hmem
        omega
      · omega
      · have hfew := hacceptable.few
        omega
      · have haccepted := hacceptable.accepted i line (List.mem_zipIdx_iff_getElem?.mp hmem)
        rw [hrefused] at haccepted
        contradiction
    · intro hrefused
      by_contra hclean
      simp only [OutputFault, not_or, not_exists, not_and, Nat.not_le, Nat.not_lt] at hclean
      obtain ⟨hshort, -, hfew, haccepted⟩ := hclean
      refine hrefused rfl ⟨hfew, hshort, fun i line hline => ?_⟩
      simpa using haccepted (line, i) (List.mem_zipIdx_iff_getElem?.mpr hline)
  · refine iff_of_true ?_ (fun hfalse => by contradiction)
    rcases hfault with hover | hlong
    · exact Or.inr (Or.inl hover)
    · exact Or.inl hlong

/-- A failure keeps nothing but its code. -/
theorem verdict_failed (failure : FailureRecord) (resources : Option ProcessResources) :
    (ChildExecution.failed failure resources).verdict = .failed failure.code := rfl

theorem code_withDiagnostics (failure : FailureRecord) (stderr : Bytes) :
    (withDiagnostics protocol failure stderr).code = failure.code := by
  unfold withDiagnostics
  split <;> rfl

theorem code_exitFailure (status : ExitStatus) (stderr : Bytes) :
    (exitFailure protocol status stderr).code = protocol.exitCodeOf status := by
  unfold exitFailure ChildProtocol.exitCodeOf
  generalize (status.code.bind fun code =>
    protocol.specialExitCodes.find? fun failure => failure.exitCode = code) = special
  cases special <;> rfl

/-- The verdict on a helper that exited with success. -/
theorem verdict_completedSuccess {lines : List Bytes} {state : Supervision}
    (h : Collected codec protocol validate lines state) (resources : Except String ProcessResources) :
    (completedSuccess protocol state resources).verdict =
      if lines.length < protocol.expectedLines then .failed protocol.outputFailureCode
      else
        match resources with
        | .error _ => .failed protocol.resourceFailureCode
        | .ok resources => ⟨lines.take protocol.expectedMetadataRecords,
            recordsOf codec (lines.drop protocol.expectedMetadataRecords), none,
            some resources⟩ := by
  have hfew : lines.length ≤ protocol.expectedMetadataRecords + protocol.expectedRecords :=
    h.acceptable.few
  unfold completedSuccess
  rw [h.length_metadata, h.length_measurements, ChildProtocol.expectedLines]
  by_cases hmissing : lines.length < protocol.expectedMetadataRecords + protocol.expectedRecords
  · rw [if_pos hmissing, if_pos (by omega)]
    rfl
  · rw [if_neg hmissing, if_neg (by omega), ← h.metadata, ← h.measurements]
    cases resources <;> rfl

end

/-- The verdict of an execution depends only on the output, the exit status and the
accounting of the helper: not on how the output was divided into reads, nor on how the
events and the polls interleaved, nor on what happens when the helper is stopped. -/
theorem verdict_execute (codec : Codec) (protocol : ChildProtocol) (validate : Validator)
    (chunks : List Bytes) (child : ReapedChild) (helper : HelperBehaviour)
    (hfits : protocol.FitsTransport) (hspawn : helper.spawn = .ok ())
    (hchunks : ∀ chunk ∈ chunks, chunk ≠ [])
    (hturns : Interleaves child (readStdout protocol (chunks.map .ok) [] 0) helper.turns)
    (hdeadline : ¬ ReachesDeadline codec protocol validate helper.turns .start) :
    (ChildSupervisor.execute codec protocol validate helper).1.verdict =
      verdictOn codec protocol validate chunks.flatten child := by
  obtain ⟨sent, last, hevents, hsends⟩ :=
    readStdout_sends protocol hchunks List.not_mem_nil (Nat.zero_le _)
  rw [List.nil_append, Nat.zero_add] at hsends
  have hlast : last = .done ∨ ∃ message, last = .error message := by
    rcases hsends with ⟨hdone, -⟩ | ⟨herror, -⟩
    · exact Or.inl hdone
    · exact Or.inr herror
  -- nothing has been collected before the first turn
  have hstart : Collected codec protocol validate [] .start :=
    ⟨⟨Nat.zero_le _, by simp, by simp⟩, by simp [Supervision.start], by
      simp [Supervision.start, recordsOf]⟩
  have hend := endsFor_of_pending hlast hstart rfl (Or.inl rfl) (hevents ▸ hturns) hdeadline
  rw [List.nil_append] at hend
  have hfault := outputFault_iff codec validate hsends
  have hbound : ¬ (protocol.expectedMetadataRecords + protocol.expectedRecords) *
      protocol.maxRecordBytes > protocol.maxStdoutBytes := Nat.not_lt.mpr hfits
  unfold ChildSupervisor.execute verdictOn
  rw [if_neg hbound, hspawn]
  revert hend
  cases supervise codec protocol validate helper.turns .start with
  | failed state failure =>
      rintro ⟨hcode, hrefused⟩
      rw [if_pos (hfault.mpr hrefused)]
      show (failedAfterReap (withDiagnostics protocol failure _) _).verdict = _
      rw [failedAfterReap, verdict_failed, code_withDiagnostics, hcode]
  | completed state reaped =>
      rintro ⟨rfl, rfl, hcollected⟩
      -- a loop that completed has accepted every line
      have hclean : ¬ OutputFault codec protocol validate chunks.flatten := fun hwrong =>
        hfault.mp hwrong rfl hcollected.acceptable
      obtain rfl : sent = linesBy 10 chunks.flatten := by
        rcases hsends with ⟨-, hsent, -⟩ | ⟨⟨message, herror⟩, -⟩
        · exact hsent
        · contradiction
      rw [if_neg hclean]
      cases hsuccess : reaped.status.success with
      | true =>
          simp only [hsuccess, if_true, Bool.true_eq_false, if_false]
          exact verdict_completedSuccess hcollected _
      | false =>
          simp only [hsuccess, Bool.false_eq_true, if_false, if_true]
          rw [failedAfterReap, verdict_failed, code_exitFailure]

namespace SampleHelper

/-- A helper with one metadata record and two measurements. -/
def protocol : ChildProtocol where
  runtimeName := "sample"
  expectedMetadataRecords := 1
  expectedRecords := 2
  maxRecordBytes := 512
  maxStdoutBytes := 4096
  maximumRuntimeSeconds := 60
  spawnFailureCode := "sample.spawnFailed"
  exitFailureCode := "sample.exitFailed"
  outputFailureCode := "sample.outputInvalid"
  deadlineFailureCode := "sample.deadlineExceeded"
  resourceFailureCode := "sample.resourceAccountingFailed"
  specialExitCodes := []

def first : MeasurementRecord := .sample Schema.cpuProbeGeneratorVersion 10 []
def second : MeasurementRecord := .sample Schema.cpuProbeGeneratorVersion 12 []

/-- It reads the lines of the two records. -/
def codec : Codec := { Codec.refusing with
  measurement line :=
    if line = toVec first.toJson then .ok first
    else if line = toVec second.toJson then .ok second
    else .error "unknown record" }

def stdout : Bytes := utf8 "\x7b\x7d\n" ++ jsonLine first.toJson ++ jsonLine second.toJson

/-- The reads end in the middle of lines. -/
def chunks : List Bytes :=
  let rest := stdout.drop 2
  [stdout.take 2, rest.take 100, (rest.drop 100).take 300, (rest.drop 100).drop 300]

def child : ReapedChild := ⟨.exited 0, .ok ⟨1500, 4096⟩⟩

/-- The exit is seen before the second measurement and the end of the output. -/
def helper : HelperBehaviour where
  spawn := .ok ()
  turns := [⟨.timeout, .running⟩, ⟨.event (.line (utf8 "\x7b\x7d")), .running⟩,
    ⟨.event (.line (toVec first.toJson)), .running⟩, ⟨.timeout, .reaped child⟩,
    ⟨.event (.line (toVec second.toJson)), .running⟩, ⟨.event .done, .running⟩]
  terminationPoll := .running
  terminationWait := .running
  stderr := []

theorem flatten_chunks : chunks.flatten = stdout := by
  simp only [chunks, List.flatten_cons, List.flatten_nil, List.append_nil, List.take_append_drop]

theorem stdout_lines :
    linesBy 10 stdout = [utf8 "\x7b\x7d", toVec first.toJson, toVec second.toJson] ∧
      (∀ line ∈ linesBy 10 stdout, line.length < 512) ∧ stdout.length ≤ 4096 ∧
      ∀ chunk ∈ chunks, chunk ≠ [] := by
  decide +kernel

/-- The reader sends the lines. -/
theorem readStdout_chunks : readStdout protocol (chunks.map .ok) [] 0 =
    [.line (utf8 "\x7b\x7d"), .line (toVec first.toJson), .line (toVec second.toJson), .done] := by
  obtain ⟨hlines, hshort, hsize, hchunks⟩ := stdout_lines
  obtain ⟨sent, last, hevents, hsends⟩ :=
    readStdout_sends protocol hchunks List.not_mem_nil (Nat.zero_le _)
  rw [flatten_chunks, List.nil_append, Nat.zero_add] at hsends
  rcases hsends with ⟨rfl, rfl, -⟩ | ⟨-, hlarge | ⟨line, hmem, hlong⟩⟩
  · rw [hevents, hlines]
    rfl
  · exact absurd hlarge (Nat.not_lt.mpr hsize)
  · exact absurd (hshort line hmem) (Nat.not_lt.mpr hlong)

end SampleHelper

theorem verdict_execute_twoRecords :
    (ChildSupervisor.execute SampleHelper.codec SampleHelper.protocol (fun _ _ => .ok ())
      SampleHelper.helper).1.verdict =
      ⟨[utf8 "\x7b\x7d"], [SampleHelper.first, SampleHelper.second], none, some ⟨1500, 4096⟩⟩ := by
  have hfits : SampleHelper.protocol.FitsTransport := by
    unfold ChildProtocol.FitsTransport
    decide
  have hturns : Interleaves SampleHelper.child
      (readStdout SampleHelper.protocol (SampleHelper.chunks.map .ok) [] 0)
      SampleHelper.helper.turns := by
    rw [SampleHelper.readStdout_chunks]
    exact .timeout (Or.inl rfl) (.event (Or.inl rfl) (.event (Or.inl rfl) (.timeout (Or.inr rfl)
      (.event (Or.inl rfl) (.event (Or.inl rfl) .nil)))))
  have hdeadline : ¬ ReachesDeadline SampleHelper.codec SampleHelper.protocol (fun _ _ => .ok ())
      SampleHelper.helper.turns .start := by
    decide +kernel
  rw [verdict_execute SampleHelper.codec SampleHelper.protocol (fun _ _ => .ok ())
    SampleHelper.chunks SampleHelper.child SampleHelper.helper hfits rfl
    SampleHelper.stdout_lines.2.2.2 hturns hdeadline, SampleHelper.flatten_chunks]
  decide +kernel

end Benchplane
