import Benchplane.Evidence.RecordFiles

/-!
# Accepted measurement files

What `validate_measurements` accepts, said without its loop: as many terminated lines
as the plan calls for, each the record of its position.  Only the generator of the
first record is carried from one line to the next.
-/

namespace Benchplane

open Library

/-- The generator that the records before a position have fixed. -/
def priorGenerator (records : List MeasurementRecord) (position : Nat) : Option String :=
  if position = 0 then none else records.head?.map (·.generator)

/-- A line that is accepted at its position. -/
structure AcceptsLine (codec : Codec) (plan : ResolvedExperiment) (warmups : UInt32)
    (records : List MeasurementRecord) (position : Nat) (line : Bytes) : Prop where
  bounded : line.length ≤ maxMeasurementLineBytes
  terminated : line.getLast? = some 10
  nonempty : recordBytes line ≠ []
  decoded : ∃ record, records[position]? = some record ∧
    codec.measurement (recordBytes line) = .ok record ∧
    validateMeasurementRecord record position warmups plan (priorGenerator records position) =
      .ok ()

/-- A file that is accepted with a validation. -/
structure AcceptsFile (codec : Codec) (plan : ResolvedExperiment) (status : RunState)
    (warmups : UInt32) (content : Bytes) (validation : MeasurementValidation) : Prop where
  counts : expectedMeasurementCounts plan status = .ok (warmups, validation.measuredRecords)
  size : content.length ≤ maxMeasurementsBytes
  length : validation.records.length = warmups.toNat + validation.measuredRecords.toNat
  representable : validation.records.length < 2 ^ 32
  generator : validation.generator = validation.records.head?.map (·.generator)
  lineCount : (splitInclusive 10 content).length = validation.records.length
  lines : ∀ position line, (splitInclusive 10 content)[position]? = some line →
    AcceptsLine codec plan warmups validation.records position line

/-- What the lines read so far have given, each accepted at its position. -/
structure HasAccepted (codec : Codec) (plan : ResolvedExperiment) (warmups : UInt32)
    (lines : List Bytes) (progress : MeasurementProgress) : Prop where
  totalBytes : progress.totalBytes = lines.flatten.length
  generator : progress.generator = progress.records.head?.map (·.generator)
  length : progress.records.length = lines.length
  lines : ∀ position line, lines[position]? = some line →
    AcceptsLine codec plan warmups progress.records position line

/-- What the lines read so far give of the records of the whole file. -/
structure HasTaken (records : List MeasurementRecord) (lines : List Bytes)
    (progress : MeasurementProgress) : Prop where
  totalBytes : progress.totalBytes = lines.flatten.length
  generator : progress.generator = progress.records.head?.map (·.generator)
  records : progress.records = records.take lines.length

section

variable {codec : Codec} {plan : ResolvedExperiment} {status : RunState} {warmups : UInt32}

/-- Later records change nothing for a line. -/
theorem AcceptsLine.append {records more : List MeasurementRecord} {position : Nat} {line : Bytes}
    (h : AcceptsLine codec plan warmups records position line) :
    AcceptsLine codec plan warmups (records ++ more) position line := by
  obtain ⟨record, hrecord, hdecode, hvalid⟩ := h.decoded
  have hinside : position < records.length := (List.getElem?_eq_some_iff.mp hrecord).1
  have hprior : priorGenerator (records ++ more) position = priorGenerator records position := by
    unfold priorGenerator
    cases records with
    | nil => simp at hinside
    | cons first rest => rfl
  refine ⟨h.bounded, h.terminated, h.nonempty, record, ?_, hdecode, hprior ▸ hvalid⟩
  rw [List.getElem?_append_left hinside]
  exact hrecord

/-- One more accepted line. -/
theorem HasAccepted.line {total : Nat} {lines : List Bytes} {line : Bytes}
    {progress progress' : MeasurementProgress} (h : HasAccepted codec plan warmups lines progress)
    (hline : checkMeasurementLine codec plan warmups total progress line = .ok progress') :
    HasAccepted codec plan warmups (lines ++ [line]) progress' := by
  simp only [checkMeasurementLine, acceptRecord, bind_eq_ok_iff, rejectIf_eq_ok, mapFailure_eq_ok,
    pure_eq_ok_iff, not_lt, not_or, Decidable.not_not] at hline
  obtain ⟨-, -, -, hbounded, -, hlast, -, ⟨hnonempty, -⟩, record, hrecord, ⟨⟩, hvalid, rfl⟩ :=
    hline
  constructor
  · simp [h.totalBytes]
  · show progress.generator.or (some record.generator) = _
    rw [h.generator]
    cases progress.records <;> rfl
  · simp [h.length]
  · intro position other hother
    by_cases hdone : position < lines.length
    · rw [List.getElem?_append_left hdone] at hother
      exact (h.lines position other hother).append
    · -- the only other position is that of the new line
      rw [List.getElem?_append_right (by omega)] at hother
      obtain ⟨hend, rfl⟩ := List.getElem?_eq_some_iff.mp hother
      rw [List.length_singleton] at hend
      have hhere : position = progress.records.length := by
        rw [h.length]
        omega
      subst hhere
      refine ⟨by simpa using hbounded, by simpa using hlast, by simpa using hnonempty, record, ?_,
        by simpa using hrecord, ?_⟩
      · simp
      · have hprior : priorGenerator (progress.records ++ [record]) progress.records.length =
            progress.generator := by
          rw [h.generator]
          cases progress.records <;> rfl
        rw [hprior]
        exact hvalid

/-- The turn of the loop on a line that is accepted. -/
theorem HasTaken.line {total : Nat} {records : List MeasurementRecord}
    {done rest : List Bytes} {line : Bytes} {progress : MeasurementProgress}
    (hdone : HasTaken records done progress)
    (hsize : (done ++ line :: rest).flatten.length ≤ maxMeasurementsBytes)
    (htotal : done.length < total)
    (h : AcceptsLine codec plan warmups records done.length line) :
    ∃ progress', checkMeasurementLine codec plan warmups total progress line = .ok progress' ∧
      HasTaken records (done ++ [line]) progress' := by
  obtain ⟨record, hrecord, hdecode, hvalid⟩ := h.decoded
  have hinside : done.length < records.length := (List.getElem?_eq_some_iff.mp hrecord).1
  have hposition : progress.position = done.length := by
    show progress.records.length = _
    rw [hdone.records, List.length_take]
    omega
  -- the generator of the first record is the one to agree with
  have hprior : priorGenerator records done.length = progress.generator := by
    rw [hdone.generator, hdone.records, priorGenerator]
    cases records with
    | nil => simp at hinside
    | cons first others =>
        cases done with
        | nil => rfl
        | cons line others => rfl
  have htake : records.take (done ++ [line]).length = progress.records ++ [record] := by
    rw [List.length_append, List.length_singleton, List.take_add_one, hrecord, hdone.records]
    rfl
  have hflatten : (done ++ [line]).flatten.length = progress.totalBytes + line.length := by
    simp [hdone.totalBytes]
  have hfits : progress.totalBytes + line.length ≤ maxMeasurementsBytes := by
    rw [← hflatten]
    simp only [List.flatten_append, List.length_append, List.flatten_cons, List.flatten_nil,
      List.length_nil] at hsize ⊢
    omega
  refine ⟨⟨progress.totalBytes + line.length, progress.generator.or (some record.generator),
    progress.records ++ [record]⟩, ?_, hflatten.symm, ?_, htake.symm⟩
  · simp only [checkMeasurementLine, acceptRecord, bind_eq_ok_iff, rejectIf_eq_ok,
      mapFailure_eq_ok, pure_eq_ok_iff]
    refine ⟨(), not_lt.mpr hfits, (), not_lt.mpr h.bounded, (), not_not_intro h.terminated, (), ?_,
      record, hdecode, (), ?_, rfl⟩
    · rintro (hempty | hextra)
      · exact h.nonempty hempty
      · change total ≤ progress.position at hextra
        omega
    · show validateMeasurementRecord record progress.position warmups plan progress.generator = _
      rw [hposition, ← hprior]
      exact hvalid
  · show progress.generator.or (some record.generator) = _
    rw [hdone.generator]
    cases progress.records <;> rfl

/-- The measurements are accepted exactly when their file is. -/
theorem validateMeasurements_eq_ok_iff {root : BundleRoot} {digest : String}
    {validation : MeasurementValidation} :
    validateMeasurements codec root digest plan status = .ok validation ↔
      ∃ content warmups, root.fileAt "attempts/0001/measurements.jsonl" = some content ∧
        (codec.hash content).hex = digest ∧
        AcceptsFile codec plan status warmups content validation := by
  simp only [validateMeasurements, bind_eq_ok_iff, checkedRegularPath_eq_ok, readFile_eq_ok,
    rejectIf_eq_ok, orReject_eq_ok, pure_eq_ok_iff, Prod.exists, Decidable.not_not, not_lt]
  constructor
  · rintro ⟨names, ⟨hnames, -⟩, content, hcontent, -, hsize, warmups, measured, hcounts, total,
      htotal, progress, hloop, -, hdigest, -, hposition, rfl⟩
    obtain ⟨hsum, hfits⟩ := checkedAdd32_eq_some.mp htotal
    -- the loop has accepted every line
    have hall : HasAccepted codec plan warmups (splitInclusive 10 content) progress :=
      foldlM_invariant (fun _ _ _ _ hdone hstep => hdone.line hstep) ⟨rfl, rfl, rfl, by simp⟩ hloop
    have hlength : progress.records.length = total := hposition
    refine ⟨content, warmups, BundleRoot.fileAt_eq_some.mpr ⟨names, hnames, hcontent⟩, hdigest,
      hcounts, hsize, ?_, ?_, hall.generator, hall.length.symm, hall.lines⟩
    · exact hlength.trans hsum.symm
    · exact hlength ▸ hfits
  · rintro ⟨content, warmups, hfile, hdigest, h⟩
    obtain ⟨names, hnames, hcontent⟩ := BundleRoot.fileAt_eq_some.mp hfile
    have htotal : checkedAdd32 warmups validation.measuredRecords =
        some validation.records.length :=
      checkedAdd32_eq_some.mpr ⟨h.length.symm, h.representable⟩
    have hflatten := flatten_splitInclusive 10 content
    -- no line stops the loop
    have hstep : ∀ done line rest progress, splitInclusive 10 content = done ++ line :: rest →
        HasTaken validation.records done progress →
        ∃ progress', checkMeasurementLine codec plan warmups validation.records.length progress
            line = .ok progress' ∧ HasTaken validation.records (done ++ [line]) progress' := by
      intro done line rest progress hlines hdone
      have hcount := h.lineCount
      rw [hlines, List.length_append, List.length_cons] at hcount
      have hsize := h.size
      rw [← hflatten, hlines] at hsize
      exact hdone.line hsize (by omega) (h.lines done.length line (by simp [hlines]))
    have hstart : HasTaken validation.records [] MeasurementProgress.start :=
      ⟨rfl, rfl, by simp [MeasurementProgress.start]⟩
    obtain ⟨progress, hloop, hall⟩ := exists_foldlM hstep hstart
    have hrecords := hall.records
    rw [h.lineCount, List.take_length] at hrecords
    have hposition : progress.position = validation.records.length := by
      show progress.records.length = _
      rw [hrecords]
    refine ⟨names, ⟨hnames, _, hcontent⟩, content, hcontent, (), h.size, warmups,
      validation.measuredRecords, h.counts, _, htotal, progress, hloop, (), hdigest, (), hposition,
      ?_⟩
    rw [hall.generator, hrecords, ← h.generator]

end

end Benchplane
