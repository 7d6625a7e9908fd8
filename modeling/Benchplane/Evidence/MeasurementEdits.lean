import Benchplane.Evidence.AcceptedEvidence
import Benchplane.Evidence.MeasurementFile

/-!
# Edits of a measurement file

An accepted measurement file has one terminated line for every place that its plan
calls for, in their order.  No line can be taken away, doubled, moved or added, and
the file cannot be cut, without the loop of `validate_measurements` noticing: its
checks do not depend on the checksum of the file.
-/

namespace Benchplane

open Library

/-- Phase and repetition of a record. -/
def MeasurementRecord.place (record : MeasurementRecord) : MeasurementPhase × Nat :=
  (record.phase, record.repetitionIndex.toNat)

/-- The places of all records: the warm-ups, then the measured ones. -/
def expectedSequence (warmups measured : UInt32) : List (MeasurementPhase × Nat) :=
  (List.range warmups.toNat).map (fun i => (.warmup, i + 1)) ++
    (List.range measured.toNat).map fun i => (.measured, i + 1)

theorem map_expectedPlace_range (warmups measured : UInt32) :
    (List.range (warmups.toNat + measured.toNat)).map (expectedPlace warmups) =
      expectedSequence warmups measured := by
  rw [List.range_add, List.map_append, expectedSequence]
  congr 1
  · apply List.map_congr_left
    intro i hi
    rw [expectedPlace, if_pos (List.mem_range.mp hi)]
  · rw [List.map_map]
    apply List.map_congr_left
    intro i _
    show expectedPlace warmups (warmups.toNat + i) = _
    rw [expectedPlace, if_neg (by omega), Nat.add_sub_cancel_left]

/-- No two positions have one place. -/
theorem expectedPlace_injective (warmups : UInt32) :
    Function.Injective (expectedPlace warmups) := by
  intro i j h
  unfold expectedPlace at h
  split at h <;> split at h
  · simpa using h
  · simp at h
  · simp at h
  · have hindex := congrArg Prod.snd h
    simp only at hindex
    omega

/-! ## Accepted lines -/

/-- Lines that are terminated and whose records stand in their places. -/
structure ReadsInPlace (codec : Codec) (warmups : UInt32) (lines : List Bytes) : Prop where
  terminated : ∀ line ∈ lines, line.getLast? = some 10
  placed : ∀ position line, lines[position]? = some line →
    ∃ record, codec.measurement (recordBytes line) = .ok record ∧
      record.place = expectedPlace warmups position

/-- An accepted record stands in the place of its position. -/
theorem place_of_validate {record : MeasurementRecord} {position : Nat} {warmups : UInt32}
    {plan : ResolvedExperiment} {prior : Option String}
    (h : validateMeasurementRecord record position warmups plan prior = .ok ()) :
    record.place = expectedPlace warmups position := by
  simp only [validateMeasurementRecord, bind_eq_ok_iff, rejectIf_eq_ok, Decidable.not_not] at h
  obtain ⟨-, hmatches, -⟩ := h
  simp only [matchesExecution, Bool.and_eq_true, decide_eq_true_eq] at hmatches
  obtain ⟨⟨⟨⟨⟨⟨⟨⟨⟨⟨-, hphase⟩, hindex⟩, -⟩, -⟩, -⟩, -⟩, -⟩, -⟩, -⟩, -⟩ := hmatches
  exact Prod.ext hphase hindex

/-- The lines of an accepted file read in place. -/
theorem AcceptsFile.readsInPlace {codec : Codec} {plan : ResolvedExperiment} {status : RunState}
    {warmups : UInt32} {content : Bytes} {validation : MeasurementValidation}
    (h : AcceptsFile codec plan status warmups content validation) :
    ReadsInPlace codec warmups (splitInclusive 10 content) := by
  constructor
  · intro line hline
    obtain ⟨position, hposition⟩ := List.getElem?_of_mem hline
    exact (h.lines position line hposition).terminated
  · intro position line hline
    obtain ⟨record, -, hdecode, hvalid⟩ := (h.lines position line hline).decoded
    exact ⟨record, hdecode, place_of_validate hvalid⟩

/-- The records of an accepted file stand in the places that the plan calls for. -/
theorem AcceptsFile.places {codec : Codec} {plan : ResolvedExperiment} {status : RunState}
    {warmups : UInt32} {content : Bytes} {validation : MeasurementValidation}
    (h : AcceptsFile codec plan status warmups content validation) :
    validation.records.map MeasurementRecord.place =
      expectedSequence warmups validation.measuredRecords := by
  rw [← map_expectedPlace_range, ← h.length]
  apply List.ext_getElem
  · simp
  · intro position hposition _
    rw [List.length_map] at hposition
    have hline : position < (splitInclusive 10 content).length := by
      rw [h.lineCount]
      exact hposition
    obtain ⟨record, hrecord, -, hvalid⟩ :=
      (h.lines position _ (List.getElem?_eq_getElem hline)).decoded
    obtain ⟨_, hget⟩ := List.getElem?_eq_some_iff.mp hrecord
    rw [List.getElem_map, List.getElem_map, List.getElem_range, hget]
    exact place_of_validate hvalid

/-! ## Edits -/

/-- A measurement file after one edit of its lines or its end. -/
inductive IsEdit (content : Bytes) : Bytes → Prop where
  | delete {before after : List Bytes} {line : Bytes}
      (lines : splitInclusive 10 content = before ++ line :: after) :
      IsEdit content (before ++ after).flatten
  | duplicate {before after : List Bytes} {line : Bytes}
      (lines : splitInclusive 10 content = before ++ after)
      (present : line ∈ splitInclusive 10 content) :
      IsEdit content (before ++ line :: after).flatten
  | exchange {before between after : List Bytes} {first second : Bytes}
      (lines : splitInclusive 10 content = before ++ first :: between ++ second :: after) :
      IsEdit content (before ++ second :: between ++ first :: after).flatten
  | append {record : Bytes} (nonempty : record ≠ []) : IsEdit content (content ++ record)
  | cut {front back : Bytes} (split : content = front ++ back) (nonempty : back ≠ []) :
      IsEdit content front

/-- Terminated lines are the lines of their concatenation. -/
theorem splitInclusive_flatten {codec : Codec} {warmups : UInt32} {content : Bytes}
    (hreads : ReadsInPlace codec warmups (splitInclusive 10 content)) {lines : List Bytes}
    (h : ∀ line ∈ lines, line ∈ splitInclusive 10 content) :
    splitInclusive 10 lines.flatten = lines := by
  have hline : ∀ line ∈ lines, line.dropLast ++ [10] = line ∧ 10 ∉ line.dropLast := by
    intro line hmem
    have hlast := hreads.terminated line (h line hmem)
    exact ⟨List.dropLast_append_getLast? 10 hlast,
      not_mem_dropLast_of_mem_splitInclusive (h line hmem)⟩
  have hcut := splitInclusive_flatMap List.dropLast lines fun line hmem => (hline line hmem).2
  have hsame : lines.map (fun line => line.dropLast ++ [10]) = lines := by
    calc lines.map (fun line => line.dropLast ++ [10]) = lines.map id :=
          List.map_congr_left fun line hmem => (hline line hmem).1
      _ = lines := List.map_id lines
  rwa [hsame, List.flatMap_def, hsame] at hcut

/-- A file that reads in place is empty or ends with a terminator. -/
theorem ends_of_readsInPlace {codec : Codec} {warmups : UInt32} {content : Bytes}
    (h : ReadsInPlace codec warmups (splitInclusive 10 content)) :
    content = [] ∨ content.getLast? = some 10 := by
  have hflatten := flatten_splitInclusive 10 content
  rcases List.eq_nil_or_concat (splitInclusive 10 content) with hnil | ⟨front, line, hsplit⟩
  · left
    rw [← hflatten, hnil, List.flatten_nil]
  · right
    have hlast := h.terminated line (by simp [hsplit])
    rw [← hflatten, hsplit, List.concat_eq_append, List.flatten_concat, List.getLast?_append, hlast]
    rfl

/-- No edit of a file that reads in place reads in place with as many lines. -/
theorem not_readsInPlace_of_isEdit {codec : Codec} {warmups : UInt32} {content edited : Bytes}
    (hedit : IsEdit content edited)
    (hreads : ReadsInPlace codec warmups (splitInclusive 10 content))
    (hedited : ReadsInPlace codec warmups (splitInclusive 10 edited)) :
    (splitInclusive 10 edited).length ≠ (splitInclusive 10 content).length := by
  intro hlength
  cases hedit with
  | @delete before after line lines =>
      have hcut : splitInclusive 10 (before ++ after).flatten = before ++ after := by
        apply splitInclusive_flatten hreads
        intro other hother
        rw [lines]
        simp only [List.mem_append, List.mem_cons] at hother ⊢
        tauto
      rw [hcut, lines] at hlength
      simp only [List.length_append, List.length_cons] at hlength
      omega
  | @duplicate before after line lines present =>
      have hcut : splitInclusive 10 (before ++ line :: after).flatten = before ++ line :: after := by
        apply splitInclusive_flatten hreads
        intro other hother
        rw [List.mem_append, List.mem_cons] at hother
        rcases hother with hbefore | rfl | hafter
        · rw [lines]
          exact List.mem_append_left _ hbefore
        · exact present
        · rw [lines]
          exact List.mem_append_right _ hafter
      rw [hcut, lines] at hlength
      simp only [List.length_append, List.length_cons] at hlength
      omega
  | @exchange before between after first second lines =>
      have hcut : splitInclusive 10 (before ++ second :: between ++ first :: after).flatten =
          before ++ second :: between ++ first :: after := by
        apply splitInclusive_flatten hreads
        intro other hother
        rw [lines]
        simp only [List.mem_append, List.mem_cons] at hother ⊢
        tauto
      -- the second line stands in two places
      have hnew : (splitInclusive 10
          (before ++ second :: between ++ first :: after).flatten)[before.length]? = some second := by
        rw [hcut]
        simp
      have hold : (splitInclusive 10 content)[before.length + 1 + between.length]? =
          some second := by
        rw [lines, List.getElem?_append_right (by simp; omega)]
        simp only [List.length_append, List.length_cons]
        have hzero : before.length + 1 + between.length - (before.length + (between.length + 1)) =
            0 := by
          omega
        rw [hzero]
        rfl
      obtain ⟨record, hrecord, hplace⟩ := hedited.placed _ _ hnew
      obtain ⟨record', hrecord', hplace'⟩ := hreads.placed _ _ hold
      obtain rfl := Except.ok.inj (hrecord.symm.trans hrecord')
      have hposition := expectedPlace_injective warmups (hplace.symm.trans hplace')
      omega
  | @append record nonempty =>
      have hcut := splitInclusive_append (ends_of_readsInPlace hreads) record
      rw [hcut, List.length_append] at hlength
      have hnone : splitInclusive 10 record = [] := List.length_eq_zero_iff.mp (by omega)
      have hflatten := flatten_splitInclusive 10 record
      rw [hnone] at hflatten
      exact nonempty hflatten.symm
  | @cut front back split nonempty =>
      have hcut := splitInclusive_append (ends_of_readsInPlace hedited) back
      rw [split, hcut, List.length_append] at hlength
      have hnone : splitInclusive 10 back = [] := List.length_eq_zero_iff.mp (by omega)
      have hflatten := flatten_splitInclusive 10 back
      rw [hnone] at hflatten
      exact nonempty hflatten.symm

/-- The measurements of a verified bundle are the warm-ups and then the measured records
of its plan, and no edit of their file is accepted, whatever its checksum. -/
theorem verifyEvidenceBundleData_measurements_fixed (codec : Codec) (root : BundleRoot)
    (bundle : VerifiedEvidenceBundle) (h : verifyEvidenceBundleData codec root = .ok bundle) :
    ∃ content warmups measured, root.fileAt "attempts/0001/measurements.jsonl" = some content ∧
      expectedMeasurementCounts bundle.plan bundle.manifest.runStatus = .ok (warmups, measured) ∧
      parseMeasurements codec content = .ok bundle.measurements ∧
      bundle.measurements.map MeasurementRecord.place = expectedSequence warmups measured ∧
      ∀ edited, IsEdit content edited → ∀ root' digest validation,
        root'.fileAt "attempts/0001/measurements.jsonl" = some edited →
        validateMeasurements codec root' digest bundle.plan bundle.manifest.runStatus ≠
          .ok validation := by
  obtain ⟨records, digests, manifest, -, -, hconsistent⟩ := verifyEvidenceBundleData_eq_ok h
  simp only [validateRecordConsistency, bind_eq_ok_iff, pure_eq_ok_iff] at hconsistent
  obtain ⟨-, -, plan, -, -, -, -, -, digest, -, validation, hvalidation, -, -, -, -, -, -, -, -,
    provenance, -, resources, -, -, -, -, -, -, -, -, -, -, -, -, -, rfl⟩ := hconsistent
  obtain ⟨content, hcontent, hparsed, -⟩ := validateMeasurements_eq_ok hvalidation
  obtain ⟨content', warmups, hcontent', -, haccepted⟩ :=
    validateMeasurements_eq_ok_iff.mp hvalidation
  obtain rfl := Option.some.inj (hcontent.symm.trans hcontent')
  refine ⟨content, warmups, validation.measuredRecords, hcontent, haccepted.counts, hparsed,
    haccepted.places, ?_⟩
  -- an accepted edit would have as many records as the plan calls for, each in the place of
  -- its position, and no kind of edit leaves that so
  intro edited hedit root' digest' validation' hfile hvalidation'
  obtain ⟨edited', warmups', hedited', -, haccepted'⟩ :=
    validateMeasurements_eq_ok_iff.mp hvalidation'
  obtain rfl := Option.some.inj (hfile.symm.trans hedited')
  have hsame : (warmups, validation.measuredRecords) = (warmups', validation'.measuredRecords) :=
    Except.ok.inj (haccepted.counts.symm.trans haccepted'.counts)
  obtain ⟨rfl, hmeasured⟩ := Prod.mk.inj hsame
  apply not_readsInPlace_of_isEdit hedit haccepted.readsInPlace haccepted'.readsInPlace
  rw [haccepted'.lineCount, haccepted'.length, haccepted.lineCount, haccepted.length, hmeasured]

theorem verifyEvidenceBundleData_measurements_fixed_sample :
    ∃ content warmups measured,
      SampleBundle.root.fileAt "attempts/0001/measurements.jsonl" = some content ∧
      expectedMeasurementCounts SampleBundle.bundle.plan
        SampleBundle.bundle.manifest.runStatus = .ok (warmups, measured) ∧
      parseMeasurements SampleBundle.codec content = .ok SampleBundle.bundle.measurements ∧
      SampleBundle.bundle.measurements.map MeasurementRecord.place =
        expectedSequence warmups measured ∧
      ∀ edited, IsEdit content edited → ∀ root' digest validation,
        root'.fileAt "attempts/0001/measurements.jsonl" = some edited →
        validateMeasurements SampleBundle.codec root' digest SampleBundle.bundle.plan
          SampleBundle.bundle.manifest.runStatus ≠ .ok validation :=
  verifyEvidenceBundleData_measurements_fixed _ _ _ SampleBundle.accepted

end Benchplane
