import Benchplane.Evidence.PanicSites
import Benchplane.Evidence.InventorySoundness

/-!
# The verifier does not panic

Each operation of `PanicSites` has a result where the verifier uses it.  What makes
it so is stated once for each function: the bounds of the counters, the limits that
are checked before, and the plan, which is validated before it is counted with.
-/

namespace Benchplane
namespace Machine

open Library Library.Panicking

/-! ## Statistics -/

theorem meanU64_eq {values : List UInt64} (h : values.length < 2 ^ 64) :
    meanU64 values = some (Benchplane.meanU64 values) := by
  unfold meanU64 Benchplane.meanU64
  split
  · rfl
  · rename_i hne
    have hlength : values.length ≠ 0 := fun hzero => hne (List.length_eq_zero_iff.mp hzero)
    have hbound : ∀ value ∈ values.map UInt64.toNat, value ≤ 2 ^ 64 - 1 := by
      intro value hvalue
      obtain ⟨x, -, rfl⟩ := List.mem_map.mp hvalue
      have hlt := x.toNat_lt
      omega
    have hfits : 0 + (values.map UInt64.toNat).length * (2 ^ 64 - 1) < 2 ^ 128 := by
      rw [List.length_map]
      omega
    rw [foldlM_unsigned hbound hfits, Nat.zero_add]
    show (quotient _ values.length).bind _ = _
    rw [quotient_eq hlength]
    rfl

/-- The rank of a nonempty list is inside it. -/
theorem nearestRank_eq {sorted : List UInt64} {percentile : Nat} (hne : sorted ≠ [])
    (hlength : sorted.length < 2 ^ 57) (hpercentile : percentile ≤ 100) :
    nearestRank sorted percentile = some (Benchplane.nearestRank sorted percentile) := by
  have hpos : 0 < sorted.length := List.length_pos_of_ne_nil hne
  have hscaled : percentile * sorted.length ≤ 100 * sorted.length :=
    Nat.mul_le_mul_right _ hpercentile
  have hrank : percentile * sorted.length / 100 +
      (if percentile * sorted.length % 100 = 0 then 0 else 1) =
        (percentile * sorted.length + 99) / 100 := by
    split <;> omega
  have hinside : (percentile * sorted.length + 99) / 100 - 1 < sorted.length := by omega
  unfold nearestRank
  rw [unsigned_eq (by omega)]
  show sorted[_ - 1]? = _
  rw [hrank, List.getElem?_eq_getElem hinside, Benchplane.nearestRank,
    List.getD_eq_getElem _ _ hinside]

theorem describeMicros_eq {values : List UInt64} (h : values.length < 2 ^ 57) :
    describeMicros values = some (Benchplane.describeMicros values) := by
  unfold describeMicros Benchplane.describeMicros
  split
  · rfl
  · rename_i hne
    have hlength : (values.mergeSort fun a b => decide (a ≤ b)).length = values.length :=
      List.length_mergeSort _
    have hsorted : (values.mergeSort fun a b => decide (a ≤ b)) ≠ [] := by
      intro hnil
      rw [hnil] at hlength
      exact hne (List.length_eq_zero_iff.mp hlength.symm)
    simp only
    generalize (values.mergeSort fun a b => decide (a ≤ b)) = sorted at hlength hsorted ⊢
    rw [meanU64_eq (by omega)]
    cases Benchplane.meanU64 sorted with
    | none => rfl
    | some mean =>
        show (nearestRank sorted 50).bind (fun p50 => (nearestRank sorted 95).bind _) = _
        rw [nearestRank_eq hsorted (by omega) (by decide),
          nearestRank_eq hsorted (by omega) (by decide)]
        rfl

/-! ## The walk -/

/-- Only normal components are left when the path is taken apart. -/
theorem mapM_componentText {path : Bytes} {pieces : List Bytes} {all : List Component}
    (h : normalComponents all = some pieces) :
    all.mapM (componentText path) =
      returns (orReject (.nonUtf8Path path) (pieces.mapM decodeUtf8)) := by
  induction all generalizing pieces with
  | nil =>
      obtain rfl := Option.some.inj h
      rfl
  | cons component rest ih =>
      cases component with
      | rootDir | curDir | parentDir => simp [normalComponents] at h
      | normal value =>
          obtain ⟨others, hothers, rfl⟩ := Option.map_eq_some_iff.mp h
          rw [List.mapM_cons, List.mapM_cons, ih hothers, componentText]
          cases decodeUtf8 value with
          | none => rfl
          | some text => cases others.mapM decodeUtf8 <;> rfl

theorem normalizedRelativePath_eq (path : Bytes) :
    normalizedRelativePath path = returns (Benchplane.normalizedRelativePath path) := by
  unfold normalizedRelativePath Benchplane.normalizedRelativePath
  cases hpieces : normalComponents (components path) with
  | none =>
      rw [if_pos (Or.inr (Or.inr rfl))]
      split <;> rfl
  | some pieces =>
      by_cases hrefused : path = [] ∨ isAbsolute path = true
      · rw [if_pos (hrefused.imp_right Or.inl), if_pos hrefused]
        rfl
      · rw [if_neg (by simpa using hrefused), if_neg hrefused, mapM_componentText hpieces]
        simp only
        cases pieces.mapM decodeUtf8 <;> rfl

/-- The relative path of an entry below the root. -/
theorem stripRoot_append (root rest : List FileName) : stripRoot root (root ++ rest) = some rest := by
  rw [stripRoot, if_pos (List.prefix_append root rest), List.drop_left]

theorem visitEntry_eq {root parent : List FileName} {name : FileName} {walk : Walk}
    (h : walk.entriesSeen ≤ maxChecksumEntries) :
    visitEntry root (root ++ parent) name walk =
      returns ((Benchplane.visitEntry parent name walk).map fun visited =>
        (visited.1, visited.2.map fun display => (display, relativePath (parent ++ [name])))) := by
  have hlimit : maxChecksumEntries = 10000 := rfl
  unfold visitEntry Benchplane.visitEntry
  rw [unsigned_eq (by omega), List.append_assoc, stripRoot_append]
  simp only [demand_some_bind, normalizedRelativePath_eq]
  by_cases hseen : walk.entriesSeen + 1 > maxChecksumEntries
  · simp only [rejectIf, if_pos hseen]
    rfl
  · simp only [rejectIf, if_neg hseen]
    show (returns _ >>= _) = _
    cases Benchplane.normalizedRelativePath (relativePath (parent ++ [name])) with
    | error e => rfl
    | ok display =>
        by_cases hsums : display = "SHA256SUMS"
        · subst hsums
          rfl
        · show returns (.ok (_, if display = "SHA256SUMS" then none else some _)) =
            returns (.ok (_, Option.map _ (if display = "SHA256SUMS" then none else some display)))
          rw [if_neg hsums, if_neg hsums]
          rfl

/-- The counter stays within its limit, and every entry lies below the root. -/
theorem gatherDirectory_eq (root : List FileName) {parent : List FileName} {d : Directory}
    {walk : Walk} (h : walk.entriesSeen ≤ maxChecksumEntries) :
    gatherDirectory root (root ++ parent) d walk =
      returns (Benchplane.gatherDirectory parent d walk) := by
  have hvisited : ∀ {name counted display},
      Benchplane.visitEntry parent name walk = .ok (counted, display) →
        counted.entriesSeen ≤ maxChecksumEntries := fun hvisit =>
    (visitEntry_eq_ok hvisit).2.1
  -- the counter stays within its bound, so its addition does not overflow; below, the walk of
  -- the children keeps it there
  induction d using Directory.treeInduction generalizing parent walk with
  | empty => rfl
  | file name content rest ih =>
      rw [gatherDirectory, Benchplane.gatherDirectory, visitEntry_eq h]
      cases hvisit : Benchplane.visitEntry parent name walk with
      | error e => rfl
      | ok visited =>
          obtain ⟨counted, display⟩ := visited
          have hcounted := hvisited hvisit
          cases display with
          | none => exact ih hcounted fun hnext => (visitEntry_eq_ok hnext).2.1
          | some display => exact ih hcounted fun hnext => (visitEntry_eq_ok hnext).2.1
  | directory name children rest ihChildren ihRest =>
      rw [gatherDirectory, Benchplane.gatherDirectory, visitEntry_eq h]
      cases hvisit : Benchplane.visitEntry parent name walk with
      | error e => rfl
      | ok visited =>
          obtain ⟨counted, display⟩ := visited
          have hcounted := hvisited hvisit
          cases display with
          | none => exact ihRest hcounted fun hnext => (visitEntry_eq_ok hnext).2.1
          | some display =>
              have hchildren := @ihChildren (parent ++ [name]) counted hcounted
                fun hnext => (visitEntry_eq_ok hnext).2.1
              rw [← List.append_assoc] at hchildren
              show (gatherDirectory root (root ++ parent ++ [name]) children counted >>= _) = _
              rw [hchildren]
              apply returns_bind
              intro inner hinner
              have hinnerBound := (gatherDirectory_counts hinner).bound hcounted
              exact ihRest hinnerBound fun hnext => (visitEntry_eq_ok hnext).2.1
  | symlink name resolves rest ih =>
      rw [gatherDirectory, Benchplane.gatherDirectory, visitEntry_eq h]
      cases hvisit : Benchplane.visitEntry parent name walk with
      | error e => rfl
      | ok visited =>
          obtain ⟨counted, display⟩ := visited
          cases display with
          | none => exact ih (hvisited hvisit) fun hnext => (visitEntry_eq_ok hnext).2.1
          | some display => rfl
  | special name rest ih =>
      rw [gatherDirectory, Benchplane.gatherDirectory, visitEntry_eq h]
      cases hvisit : Benchplane.visitEntry parent name walk with
      | error e => rfl
      | ok visited =>
          obtain ⟨counted, display⟩ := visited
          cases display with
          | none => exact ih (hvisited hvisit) fun hnext => (visitEntry_eq_ok hnext).2.1
          | some display => rfl

theorem gatherPayloadPaths_eq (root : BundleRoot) :
    gatherPayloadPaths root = returns (Benchplane.gatherPayloadPaths root) := by
  have hwalk := @gatherDirectory_eq root.path [] root.tree ⟨.empty, 0⟩ (Nat.zero_le _)
  rw [List.append_nil] at hwalk
  unfold gatherPayloadPaths Benchplane.gatherPayloadPaths
  rw [hwalk]
  exact returns_bind fun walk _ => rfl

/-! ## Reading files -/

theorem flatten_readChunks {fuel : Nat} {content : Bytes} (h : content.length ≤ fuel) :
    (readChunks fuel content).flatten = content := by
  induction fuel generalizing content with
  | zero =>
      obtain rfl : content = [] := List.length_eq_zero_iff.mp (by omega)
      rfl
  | succ fuel ih =>
      cases content with
      | nil => rfl
      | cons b rest =>
          have hrest : ((b :: rest).drop hashBufferBytes).length ≤ fuel := by
            rw [List.length_drop, hashBufferBytes]
            omega
          rw [readChunks, List.flatten_cons, ih hrest, List.take_append_drop]

/-- The pieces of a file within the limit are kept. -/
theorem foldlM_retainChunk {display : String} {limit : Nat} {chunks : List Bytes} {done : Bytes}
    (h : (done ++ chunks.flatten).length ≤ limit) :
    chunks.foldlM (retainChunk display (some limit)) (some done) =
      returns (.ok (some (done ++ chunks.flatten))) := by
  induction chunks generalizing done with
  | nil =>
      rw [List.flatten_nil, List.append_nil]
      rfl
  | cons chunk rest ih =>
      rw [List.flatten_cons, ← List.append_assoc] at h ⊢
      have hfits : ¬ (done.length + chunk.length > limit) := by
        rw [List.length_append, List.length_append] at h
        omega
      have hchunk : retainChunk display (some limit) (some done) chunk =
          returns (.ok (some (done ++ chunk))) := by
        show (returns (rejectIf _ _) >>= _) = _
        rw [rejectIf, if_neg hfits]
        rfl
      rw [List.foldlM_cons, ← ih h, hchunk]
      rfl

theorem hashRegularFile_eq (hash : Bytes → Digest) (root : BundleRoot) (relative : Bytes)
    (display : String) (limit : Option Nat) :
    hashRegularFile hash root relative display limit =
      returns (Benchplane.hashRegularFile hash root relative display limit) := by
  unfold hashRegularFile Benchplane.hashRegularFile
  apply returns_bind
  intro names _
  apply returns_bind
  intro content _
  apply returns_bind
  intro _ hlimit
  have hchunks := flatten_readChunks (Nat.le_refl content.length)
  have hretained : (readChunks content.length content).foldlM (retainChunk display limit)
      (limit.map fun _ => []) = returns (.ok (limit.map fun _ => content)) := by
    cases limit with
    | none =>
        -- nothing is retained, and nothing is asked for
        show (readChunks content.length content).foldlM (retainChunk display none) none = _
        induction readChunks content.length content with
        | nil => rfl
        | cons chunk rest ih =>
            rw [List.foldlM_cons]
            exact ih
    | some bound =>
        have hfits : content.length ≤ bound := by
          simpa [isAbove] using rejectIf_eq_ok.mp hlimit
        have hkept := @foldlM_retainChunk display bound (readChunks content.length content) []
          (by rwa [List.nil_append, hchunks])
        rw [List.nil_append, hchunks] at hkept
        exact hkept
  rw [hretained]
  rfl

/-! ## Reading SHA256SUMS -/

theorem parseEntry_eq (line : String) :
    parseEntry line = returns (Benchplane.parseEntry line) := by
  unfold parseEntry Benchplane.parseEntry
  apply returns_bind
  intro declared _
  apply returns_bind
  intro _ _
  apply returns_bind
  intro path _
  rw [normalizedRelativePath_eq]
  apply returns_bind
  intro normalized _
  exact returns_bind fun _ _ => rfl

theorem checkEntry_eq (hash : Bytes → Digest) (root : BundleRoot)
    (payloads : SortedMap String Bytes) (progress : Progress) (line : String) :
    checkEntry hash root payloads progress line =
      returns (Benchplane.checkEntry hash root payloads progress line) := by
  unfold checkEntry Benchplane.checkEntry
  apply returns_bind
  intro _ _
  rw [parseEntry_eq]
  apply returns_bind
  intro entry _
  apply returns_bind
  intro _ _
  apply returns_bind
  intro _ _
  rw [hashRegularFile_eq]
  apply returns_bind
  intro hashed _
  obtain ⟨target, actual, bytes⟩ := hashed
  simp only [List.contains_iff_mem]
  apply returns_bind
  intro _ _
  exact returns_bind fun _ _ => rfl

theorem checkLine_eq (hash : Bytes → Digest) (root : BundleRoot)
    (payloads : SortedMap String Bytes) (progress : Progress) (line : Bytes) :
    checkLine hash root payloads progress line =
      returns (Benchplane.checkLine hash root payloads progress line) := by
  unfold checkLine Benchplane.checkLine
  apply returns_bind
  intro text _
  apply returns_bind
  intro _ _
  apply returns_bind
  intro _ _
  simp only
  split
  · rfl
  · exact checkEntry_eq ..

theorem readInventory_eq (hash : Bytes → Digest) (root : BundleRoot) :
    readInventory hash root = returns (Benchplane.readInventory hash root) := by
  unfold readInventory Benchplane.readInventory
  rw [gatherPayloadPaths_eq]
  apply returns_bind
  intro payloads _
  apply returns_bind
  intro names _
  apply returns_bind
  intro content _
  apply returns_bind
  intro _ _
  have hloop : (splitInclusive 10 content).foldlM (checkLine hash root payloads) .start =
      returns ((splitInclusive 10 content).foldlM (Benchplane.checkLine hash root payloads)
        .start) :=
    foldlM_returns (fun progress line (_ : True) => checkLine_eq hash root payloads progress line)
      (fun _ _ _ _ _ => trivial) (splitInclusive 10 content) trivial
  rw [hloop]
  exact returns_bind fun _ _ => rfl

/-! ## Measurements -/

theorem rawBounds_eq_some {count roundedMicros minimum maximum divisor : Nat}
    (h : rawBounds count roundedMicros = some (minimum, maximum, divisor)) :
    minimum < 2 ^ 128 ∧ maximum < 2 ^ 128 ∧ divisor = count * 1000 := by
  have hchecked : ∀ {value result : Nat}, checkedU128 value = some result →
      value < 2 ^ 128 ∧ result = value := by
    intro value result hresult
    unfold checkedU128 at hresult
    split at hresult
    · rename_i hlt
      exact ⟨hlt, (Option.some.inj hresult).symm⟩
    · contradiction
  simp only [rawBounds, bind, Option.bind_eq_some_iff, pure, Option.some.injEq,
    Prod.mk.injEq] at h
  obtain ⟨scaled, -, minimum', hminimum, maximum', hmaximum, divisor', hdivisor, rfl, rfl, rfl⟩ := h
  obtain ⟨hminimumFits, rfl⟩ := hchecked hminimum
  obtain ⟨hmaximumFits, rfl⟩ := hchecked hmaximum
  exact ⟨hminimumFits, hmaximumFits, (hchecked hdivisor).2⟩

/-- A ceiling of a word does not overflow. -/
theorem ceilDivU128_eq {dividend divisor : Nat} (hdividend : dividend < 2 ^ 128)
    (hdivisor : 1 < divisor) :
    ceilDivU128 dividend divisor = some (Benchplane.ceilDivU128 dividend divisor) := by
  have hhalf : dividend / divisor ≤ dividend / 2 := Nat.div_le_div_left hdivisor (by decide)
  unfold ceilDivU128
  rw [quotient_eq (by omega)]
  show unsigned 128 _ = _
  rw [unsigned_eq]
  · rfl
  · split <;> omega

/-- The checked raw sums, as the verifier computes them one by one. -/
theorem rawBounds_bind {α : Type} (count roundedMicros : Nat) (f : Nat × Nat × Nat → Option α) :
    (rawBounds count roundedMicros).bind f =
      (checkedU128 ((roundedMicros - count) * 1000)).bind fun scaled =>
        (checkedU128 (scaled + count)).bind fun minimum =>
          (checkedU128 (roundedMicros * 1000)).bind fun maximum =>
            (checkedU128 (count * 1000)).bind fun divisor => f (minimum, maximum, divisor) := by
  simp only [rawBounds, Option.bind_eq_bind, Option.bind_assoc, Option.pure_def, Option.bind_some]

theorem roundedRequestMeanBounds_eq (values : List UInt64) :
    roundedRequestMeanBounds values = some (Benchplane.roundedRequestMeanBounds values) := by
  unfold roundedRequestMeanBounds Benchplane.roundedRequestMeanBounds
  cases values.foldlM addRounded (0, 0) with
  | none => rfl
  | some sums =>
      obtain ⟨count, roundedMicros⟩ := sums
      simp only [Option.bind_eq_bind, Option.bind_some]
      split
      · rfl
      · rename_i hsums
        have hcount : 0 < count := by omega
        have hbind := rawBounds_bind count roundedMicros fun bounds =>
          (tryU64 (Benchplane.ceilDivU128 bounds.1 bounds.2.2)).bind fun minimum =>
            (tryU64 (Benchplane.ceilDivU128 bounds.2.1 bounds.2.2)).bind fun maximum =>
              pure (minimum, maximum)
        refine Eq.trans ?_ (congrArg some hbind)
        cases hbounds : rawBounds count roundedMicros with
        | none => rfl
        | some bounds =>
            obtain ⟨minimum, maximum, divisor⟩ := bounds
            obtain ⟨hminimum, hmaximum, rfl⟩ := rawBounds_eq_some hbounds
            show (ceilDivU128 minimum (count * 1000)).bind (fun _ =>
              (ceilDivU128 maximum (count * 1000)).bind _) = _
            -- the divisor is positive, so neither division panics
            rw [ceilDivU128_eq hminimum (by omega), ceilDivU128_eq hmaximum (by omega)]
            rfl

theorem validateLlamaV2AggregateConsistency_eq (record : MeasurementRecord) :
    validateLlamaV2AggregateConsistency record =
      returns (Benchplane.validateLlamaV2AggregateConsistency record) := by
  unfold validateLlamaV2AggregateConsistency Benchplane.validateLlamaV2AggregateConsistency
  rw [roundedRequestMeanBounds_eq, demand_some_bind]
  apply returns_bind
  intro latencyBounds _
  rw [roundedRequestMeanBounds_eq, demand_some_bind]
  apply returns_bind
  intro ttftBounds _
  rfl

/-- The loop over observations whose indices are below a word. -/
theorem checkObservations_eq {observations : List (RequestObservation × Nat)}
    (h : ∀ entry ∈ observations, entry.2 + 1 < 2 ^ 32) :
    checkObservations observations =
      returns (rejectIf (¬ observations.all fun entry => isObservationAt entry.2 entry.1)
        (.invalidMeasurements "llamaCpp v2 request observation is out of order or invalid")) := by
  induction observations with
  | nil => rfl
  | cons entry rest ih =>
      obtain ⟨observation, index⟩ := entry
      have hindex := h (observation, index) List.mem_cons_self
      have hrest := ih fun other hother => h other (List.mem_cons_of_mem _ hother)
      simp only at hindex
      have hlt : index < 2 ^ 32 := by omega
      -- the number of an observation fits its type
      have hnumber : (UInt32.ofNat index + 1).toNat = index + 1 := by
        rw [UInt32.toNat_add, UInt32.toNat_ofNat_of_lt' hlt]
        exact Nat.mod_eq_of_lt hindex
      have hmod : index % 2 ^ 32 = index := Nat.mod_eq_of_lt hlt
      have hsame : (observation.requestIndex.toNat ≠ index + 1 ∨ observation.latencyMicros = 0 ∨
          observation.timeToFirstTokenMicros = 0 ∨
          observation.timeToFirstTokenMicros > observation.latencyMicros) ↔
          isObservationAt index observation = false := by
        have hrequest : observation.requestIndex.toNat = index + 1 ↔
            observation.requestIndex = UInt32.ofNat index + 1 := by
          rw [← hnumber, UInt32.toNat_inj]
        rw [Bool.eq_false_iff]
        simp only [isObservationAt, Bool.and_eq_true, decide_eq_true_eq, ne_eq, hrequest,
          not_and_or, Decidable.not_not, gt_iff_lt, UInt64.not_le, or_assoc]
      rw [checkObservations, hmod, unsigned_eq hindex, demand_some_bind, List.all_cons]
      cases hgood : isObservationAt index observation with
      | false =>
          rw [rejectIf, if_pos (hsame.mpr hgood)]
          rfl
      | true =>
          rw [rejectIf, if_neg (mt hsame.mp (by simp [hgood]))]
          exact hrest

/-- The position is below the number of records, which is a word. -/
theorem expectedPlace_eq {warmups : UInt32} {position : Nat} (h : position + 1 < 2 ^ 32) :
    expectedPlace warmups position = some (Benchplane.expectedPlace warmups position) := by
  unfold expectedPlace Benchplane.expectedPlace
  split
  · rw [unsigned_eq h]
    rfl
  · rename_i hmeasured
    rw [difference_eq (by omega)]
    show (unsigned 32 (position - warmups.toNat + 1)).bind _ = _
    rw [unsigned_eq (by omega)]
    rfl

theorem validateLlamaCppRecord_eq (record : MeasurementRecord) (target : LlamaCppTarget)
    (requests : UInt32) :
    validateLlamaCppRecord record target requests =
      returns (Benchplane.validateLlamaCppRecord record target requests) := by
  unfold validateLlamaCppRecord Benchplane.validateLlamaCppRecord
  split
  · rfl
  · split
    · apply returns_bind
      intro _ hcardinality
      have hlength : record.requestObservations.length = requests.toNat := by
        simpa using rejectIf_eq_ok.mp hcardinality
      have hindices : ∀ entry ∈ record.requestObservations.zipIdx, entry.2 + 1 < 2 ^ 32 := by
        intro entry hentry
        have hinside := List.snd_lt_of_mem_zipIdx hentry
        have hword := requests.toNat_lt
        omega
      rw [checkObservations_eq hindices]
      apply returns_bind
      intro _ _
      exact validateLlamaV2AggregateConsistency_eq record
    · rfl

theorem validateMeasurementRecord_eq {record : MeasurementRecord} {position : Nat}
    {warmups : UInt32} {plan : ResolvedExperiment} {prior : Option String}
    (h : position + 1 < 2 ^ 32) :
    validateMeasurementRecord record position warmups plan prior =
      returns (Benchplane.validateMeasurementRecord record position warmups plan prior) := by
  have hmatches : matchesPlace record (Benchplane.expectedPlace warmups position) plan prior =
      matchesExecution record position warmups plan prior := rfl
  unfold validateMeasurementRecord Benchplane.validateMeasurementRecord
  rw [expectedPlace_eq h, demand_some_bind, hmatches, unsigned_eq h, demand_some_bind]
  cases matchesExecution record position warmups plan prior with
  | false => rfl
  | true =>
      simp only [not_true_eq_false, rejectIf, if_false, if_true]
      cases plan.experiment.spec.runtime with
      | localFake seed scenario => rfl
      | cpuProbe outputTokens workUnitsPerToken => rfl
      | llamaCpp target model outputTokens => exact validateLlamaCppRecord_eq ..
      | vllm model revision arguments => rfl

theorem checkMeasurementLine_eq {codec : Codec} {plan : ResolvedExperiment} {warmups : UInt32}
    {total : Nat} (h : total < 2 ^ 32) (progress : MeasurementProgress) (line : Bytes) :
    checkMeasurementLine codec plan warmups total progress line =
      returns (Benchplane.checkMeasurementLine codec plan warmups total progress line) := by
  unfold checkMeasurementLine Benchplane.checkMeasurementLine
  apply returns_bind
  intro _ _
  apply returns_bind
  intro _ _
  apply returns_bind
  intro _ _
  apply returns_bind
  intro _ hroom
  have hposition : progress.position < total := by
    have hboth := rejectIf_eq_ok.mp hroom
    rw [not_or, not_le] at hboth
    exact hboth.2
  have hnext : progress.position + 1 < 2 ^ 32 := by omega
  apply returns_bind
  intro record _
  simp only
  rw [show (({ progress with totalBytes := progress.totalBytes + line.length } :
    MeasurementProgress).position) = progress.position from rfl, validateMeasurementRecord_eq hnext]
  apply returns_bind
  intro _ _
  rw [unsigned_eq hnext]
  rfl

theorem validateMeasurements_eq (codec : Codec) (root : BundleRoot) (digest : String)
    (plan : ResolvedExperiment) (status : RunState) :
    validateMeasurements codec root digest plan status =
      returns (Benchplane.validateMeasurements codec root digest plan status) := by
  unfold validateMeasurements Benchplane.validateMeasurements
  apply returns_bind
  intro names _
  apply returns_bind
  intro content _
  apply returns_bind
  intro _ _
  apply returns_bind
  intro counts _
  apply returns_bind
  intro total htotal
  have hword : total < 2 ^ 32 := by
    obtain ⟨hsum, hfits⟩ := checkedAdd32_eq_some.mp (orReject_eq_ok.mp htotal)
    omega
  -- the records of a file fit the memory that is asked for
  have hcapacity : withCapacity total = some () := by
    rw [withCapacity, measurementRecordBytes, if_pos (by omega)]
  have hloop : (splitInclusive 10 content).foldlM (checkMeasurementLine codec plan counts.1 total)
      MeasurementProgress.start =
      returns ((splitInclusive 10 content).foldlM
        (Benchplane.checkMeasurementLine codec plan counts.1 total) MeasurementProgress.start) :=
    foldlM_returns (fun progress line (_ : True) => checkMeasurementLine_eq hword progress line)
      (fun _ _ _ _ _ => trivial) (splitInclusive 10 content) trivial
  rw [hcapacity, demand_some_bind, hloop]
  apply returns_bind
  intro progress _
  apply returns_bind
  intro _ _
  exact returns_bind fun _ _ => rfl

/-! ## The records of a bundle -/

theorem attemptTerminal_eq (manifest : TerminalManifest) :
    attemptTerminal manifest.runStatus = some (expectedAttemptStatus manifest) := by
  obtain ⟨⟨format, runId, runStatus, validityStatus, _, _, _⟩, hterminal⟩ := manifest
  cases runStatus with
  | succeeded | failed | interrupted => rfl
  | created | preparing | running | collecting | finalizing => contradiction

theorem expectedValidity_eq (manifest : TerminalManifest) (plan : ResolvedExperiment)
    (measuredRecords : UInt32) :
    expectedValidity manifest.runStatus plan measuredRecords =
      some (Benchplane.expectedValidity manifest plan measuredRecords) := by
  obtain ⟨⟨format, runId, runStatus, validityStatus, _, _, _⟩, hterminal⟩ := manifest
  cases runStatus with
  | succeeded =>
      simp only [expectedValidity, Benchplane.expectedValidity]
      split <;> rfl
  | failed | interrupted => rfl
  | created | preparing | running | collecting | finalizing => contradiction

theorem expectedStatistics_eq {manifest : TerminalManifest} {records : List MeasurementRecord}
    (h : records.length ≤ 2 ^ 32) :
    expectedStatistics manifest records =
      some (Benchplane.expectedStatistics manifest records) := by
  have hmeasured : (records.filter (·.phase = .measured)).length ≤ 2 ^ 32 :=
    (List.length_filter_le _ _).trans h
  unfold expectedStatistics Benchplane.expectedStatistics
  simp only
  split
  · rfl
  · rw [describeMicros_eq (by rw [List.length_map]; omega), meanU64_eq (by rw [List.length_map]; omega)]
    rfl

theorem length_records_of_validate {codec : Codec} {root : BundleRoot} {digest : String}
    {plan : ResolvedExperiment} {status : RunState} {validation : MeasurementValidation}
    (h : Benchplane.validateMeasurements codec root digest plan status = .ok validation) :
    validation.records.length ≤ 2 ^ 32 := by
  simp only [Benchplane.validateMeasurements, bind_eq_ok_iff, orReject_eq_ok, rejectIf_eq_ok,
    pure_eq_ok_iff, Decidable.not_not] at h
  obtain ⟨-, -, -, -, -, -, counts, -, total, htotal, progress, -, -, -, -, hposition, rfl⟩ := h
  obtain ⟨hsum, hfits⟩ := checkedAdd32_eq_some.mp htotal
  have hlength : progress.records.length = total := hposition
  show progress.records.length ≤ 2 ^ 32
  omega

theorem validateRecordConsistency_eq (codec : Codec) (root : BundleRoot)
    (manifest : TerminalManifest) (records : Records) (digests : List (String × String)) :
    validateRecordConsistency codec root manifest records digests =
      returns (Benchplane.validateRecordConsistency codec root manifest records digests) := by
  unfold validateRecordConsistency Benchplane.validateRecordConsistency
  apply returns_bind
  intro _ _
  apply returns_bind
  intro plan _
  apply returns_bind
  intro _ _
  apply returns_bind
  intro _ _
  apply returns_bind
  intro digest _
  rw [validateMeasurements_eq]
  apply returns_bind
  intro validation hvalidation
  apply returns_bind
  intro run _
  apply returns_bind
  intro _ _
  apply returns_bind
  intro attempt _
  rw [attemptTerminal_eq, demand_some_bind]
  apply returns_bind
  intro _ _
  apply returns_bind
  intro provenance _
  apply returns_bind
  intro resources _
  apply returns_bind
  intro validity _
  rw [expectedValidity_eq, demand_some_bind]
  apply returns_bind
  intro _ _
  apply returns_bind
  intro summary _
  rw [expectedStatistics_eq (length_records_of_validate hvalidation), demand_some_bind]
  apply returns_bind
  intro _ _
  apply returns_bind
  intro events _
  exact returns_bind fun _ _ => rfl

/-- The verifier never panics: on the machine it is the verifier. -/
theorem verifyEvidenceBundleData_eq (codec : Codec) (root : BundleRoot) :
    verifyEvidenceBundleData codec root =
      returns (Benchplane.verifyEvidenceBundleData codec root) := by
  unfold verifyEvidenceBundleData Benchplane.verifyEvidenceBundleData
  rw [readInventory_eq]
  apply returns_bind
  intro inventory _
  apply returns_bind
  intro bytes _
  apply returns_bind
  intro _ _
  apply returns_bind
  intro manifest _
  apply returns_bind
  intro terminal _
  apply returns_bind
  intro _ _
  exact validateRecordConsistency_eq ..

end Machine
end Benchplane
