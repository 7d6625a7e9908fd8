import Benchplane.Cli.Archive
import Benchplane.Comparison.Compatibility
import Benchplane.Comparison.Exchange

/-!
# The figures of a printed comparison

The human form of a comparison shows its metrics line by line.  A percentage is computed in
integers, divided by a thousand in binary64 and printed with three decimals: as long as the
candidate is not beyond `2 ^ 35` times the baseline, neither rounding is seen in the text.
-/

namespace Benchplane

open Library Library.Panicking

/-! ## One percentage -/

/-- A quotient in thousandths of one percent stays small where the ratio does. -/
theorem abs_milliPercent_lt {baseline candidate : Nat} (h : candidate ≤ baseline * 2 ^ 35) :
    |(((candidate : Int) - baseline) * 100000).tdiv baseline| < 2 ^ 52 := by
  have hdelta : ((candidate : Int) - baseline).natAbs ≤ baseline * 2 ^ 35 := by omega
  have hscaled : (((candidate : Int) - baseline) * 100000).natAbs ≤
      2 ^ 35 * 100000 * baseline := by
    rw [Int.natAbs_mul]
    show ((candidate : Int) - baseline).natAbs * 100000 ≤ _
    omega
  have hquotient : ((((candidate : Int) - baseline) * 100000).tdiv baseline).natAbs ≤
      2 ^ 35 * 100000 := by
    rw [Int.natAbs_tdiv, Int.natAbs_natCast]
    exact Nat.div_le_of_le_mul (by omega)
  rw [abs_lt]
  omega

/-- The text of a metric by integer arithmetic alone. -/
def exactLine (label : String) (baseline candidate : UInt64) : String :=
  label ++ ": baseline=" ++ baseline.toNat.repr ++ " candidate=" ++ candidate.toNat.repr ++
    " delta=" ++ signedText (candidate.toNat - baseline.toNat) ++ " (" ++
    (if baseline = 0 then "undefined"
      else fixedText 3 ((((candidate.toNat : Int) - baseline.toNat) * 100000).tdiv
        baseline.toNat) ++ "%") ++ ")"

/-- Binary64 does not change the line of a metric. -/
theorem metricLine_metricOf (label : String) {baseline candidate : UInt64}
    (h : baseline ≠ 0 → candidate.toNat ≤ baseline.toNat * 2 ^ 35) :
    metricLine label (metricOf baseline candidate) = exactLine label baseline candidate := by
  by_cases hzero : baseline = 0
  · simp [metricLine, metricOf, exactLine, hzero]
  · have hsmall := abs_milliPercent_lt (h hzero)
    have htext := @toFixed_quotient 3 _ hsmall
    simp only [metricLine, metricOf, exactLine, if_neg hzero, Option.map_some, Option.getD_some,
      percentText, htext]

/-! ## The metrics of a comparison -/

/-- A metric with its label. -/
abbrev Figure : Type := String × MetricComparison

/-- The three metrics of a distribution. -/
def DistributionComparison.figures (distribution : DistributionComparison) (label : String) :
    List Figure :=
  [(label ++ " mean (µs)", distribution.mean), (label ++ " p50 (µs)", distribution.p50),
    (label ++ " p95 (µs)", distribution.p95)]

def RequestScopeComparison.figures (requests : RequestScopeComparison) : List Figure :=
  requests.latencyMicros.figures "request latency" ++
    requests.timeToFirstTokenMicros.figures "request TTFT"

def RepetitionScopeComparison.figures (repetitions : RepetitionScopeComparison) : List Figure :=
  repetitions.aggregateLatencyMicros.figures "repetition aggregate latency" ++
    repetitions.aggregateTimeToFirstTokenMicros.figures "repetition aggregate TTFT" ++
    [("repetition mean throughput (mreq/s)", repetitions.meanThroughputMilliRequestsPerSecond)]

/-- The metrics of the resources, where both bundles have a record of them. -/
def AttemptResourceComparison.figures (resources : AttemptResourceComparison) : List Figure :=
  resources.cpuTimeMicros.toList.map (fun cpu => ("whole-helper CPU time (µs)", cpu)) ++
    resources.peakRssBytes.toList.map (fun rss => ("whole-helper peak RSS (bytes)", rss))

/-- All the metrics of a comparison, in the order of the report. -/
def EvidenceComparison.figures (comparison : EvidenceComparison) : List Figure :=
  comparison.requests.toList.flatMap RequestScopeComparison.figures ++
    comparison.repetitions.toList.flatMap RepetitionScopeComparison.figures ++
    comparison.attemptResources.toList.flatMap AttemptResourceComparison.figures

/-- A metric that has been computed from its two sides. -/
def Figure.IsComputed (figure : Figure) : Prop :=
  figure.2 = metricOf figure.2.baseline figure.2.candidate

theorem isComputed_metricOf (label : String) (baseline candidate : UInt64) :
    Figure.IsComputed (label, metricOf baseline candidate) := rfl

theorem isComputed_of_compareDistribution {baseline candidate : List UInt64}
    {distribution : DistributionComparison}
    (h : compareDistribution baseline candidate = some distribution) (label : String) :
    ∀ figure ∈ distribution.figures label, figure.IsComputed := by
  obtain ⟨baselineSummary, candidateSummary, -, -, rfl⟩ := compareDistribution_eq_some.mp h
  simp [DistributionComparison.figures, isComputed_metricOf]

theorem isComputed_of_compareRequests {baseline candidate : VerifiedEvidenceBundle}
    {requests : RequestScopeComparison} (h : compareRequests baseline candidate = some requests) :
    ∀ figure ∈ requests.figures, figure.IsComputed := by
  simp only [compareRequests, Option.bind_eq_bind, Option.bind_eq_some_iff, Option.pure_def,
    Option.some.injEq] at h
  obtain ⟨latency, hlatency, ttft, httft, rfl⟩ := h
  intro figure hfigure
  rcases List.mem_append.mp hfigure with hfigure | hfigure
  · exact isComputed_of_compareDistribution hlatency _ figure hfigure
  · exact isComputed_of_compareDistribution httft _ figure hfigure

theorem isComputed_of_compareRepetitions {baseline candidate : VerifiedEvidenceBundle}
    {repetitions : RepetitionScopeComparison}
    (h : compareRepetitions baseline candidate = some repetitions) :
    ∀ figure ∈ repetitions.figures, figure.IsComputed := by
  simp only [compareRepetitions, compareMetric_eq, Option.bind_eq_bind, Option.bind_eq_some_iff,
    Option.pure_def, Option.some.injEq] at h
  obtain ⟨latency, hlatency, ttft, httft, baselineMean, -, candidateMean, -, throughput, rfl,
    rfl⟩ := h
  intro figure hfigure
  rcases List.mem_append.mp hfigure with hfigure | hfigure
  · rcases List.mem_append.mp hfigure with hfigure | hfigure
    · exact isComputed_of_compareDistribution hlatency _ figure hfigure
    · exact isComputed_of_compareDistribution httft _ figure hfigure
  · obtain rfl := List.mem_singleton.mp hfigure
    exact isComputed_metricOf _ _ _

theorem isComputed_of_compareResources {baseline candidate : Option AttemptResources}
    {resources : AttemptResourceComparison}
    (h : compareResources baseline candidate = some (some resources)) :
    ∀ figure ∈ resources.figures, figure.IsComputed := by
  cases baseline with
  | none =>
      cases candidate with
      | none => simp [compareResources] at h
      | some candidate =>
          simp [compareResources, compareResourceMetrics] at h
          subst h
          simp [AttemptResourceComparison.figures]
  | some baseline =>
      cases candidate with
      | none =>
          simp [compareResources, compareResourceMetrics] at h
          subst h
          simp [AttemptResourceComparison.figures]
      | some candidate =>
          simp [compareResources, compareResourceMetrics, compareMetric_eq] at h
          subst h
          simp [AttemptResourceComparison.figures, isComputed_metricOf]

theorem isComputed_of_compareSections {compatible : Bool}
    {baseline candidate : VerifiedEvidenceBundle} {comparison : EvidenceComparison}
    (h : compareSections compatible baseline candidate =
      some (comparison.requests, comparison.repetitions, comparison.attemptResources)) :
    ∀ figure ∈ comparison.figures, figure.IsComputed := by
  unfold EvidenceComparison.figures
  generalize comparison.requests = requests at h ⊢
  generalize comparison.repetitions = repetitions at h ⊢
  generalize comparison.attemptResources = resources at h ⊢
  cases compatible with
  | false =>
      obtain ⟨rfl, rfl, rfl⟩ : none = requests ∧ none = repetitions ∧ none = resources := by
        simpa [compareSections] using h
      simp
  | true =>
      simp only [compareSections, if_true, Option.bind_eq_bind, Option.bind_eq_some_iff,
        Option.pure_def, Option.some.injEq, Prod.mk.injEq] at h
      obtain ⟨request, hrequests, repetition, hrepetitions, resource, hresources, rfl, rfl, rfl⟩ :=
        h
      intro figure hfigure
      -- the figures of the three sections, one behind the other
      rcases List.mem_append.mp hfigure with hfigure | hfigure
      · rcases List.mem_append.mp hfigure with hfigure | hfigure
        · simp only [Option.toList_some, List.flatMap_singleton] at hfigure
          exact isComputed_of_compareRequests hrequests figure hfigure
        · simp only [Option.toList_some, List.flatMap_singleton] at hfigure
          exact isComputed_of_compareRepetitions hrepetitions figure hfigure
      · cases resource with
        | none => simp at hfigure
        | some resource =>
            simp only [Option.toList_some, List.flatMap_singleton] at hfigure
            exact isComputed_of_compareResources hresources figure hfigure

/-! ## The report -/

/-- A part of a process that prints given lines, among others and in their order. -/
def Displays (part : Cli Unit) (wanted : List String) : Prop :=
  ∃ lines, Prints part lines ∧ wanted.Sublist lines

theorem Speaks.displays {part : Cli Unit} (h : Speaks part) : Displays part [] := by
  obtain ⟨lines, hlines⟩ := h
  exact ⟨lines, hlines, List.nil_sublist lines⟩

theorem displays_println (line : String) : Displays (println line) [line] :=
  ⟨[line], prints_println line, List.Sublist.refl _⟩

theorem Displays.andThen {first second : Cli Unit} {wanted more : List String}
    (hfirst : Displays first wanted) (hsecond : Displays second more) :
    Displays (first >>= fun _ => second) (wanted ++ more) := by
  obtain ⟨lines, hlines, hwanted⟩ := hfirst
  obtain ⟨rest, hrest, hmore⟩ := hsecond
  exact ⟨lines ++ rest, hlines.andThen hrest, hwanted.append hmore⟩

/-- Behind a part whose lines do not matter. -/
theorem Displays.behind {first second : Cli Unit} {wanted : List String}
    (hsecond : Displays second wanted) (hfirst : Speaks first) :
    Displays (first >>= fun _ => second) wanted :=
  hfirst.displays.andThen hsecond

/-- In front of a part whose lines do not matter. -/
theorem Displays.before {first second : Cli Unit} {wanted : List String}
    (hfirst : Displays first wanted) (hsecond : Speaks second) :
    Displays (first >>= fun _ => second) wanted := by
  have h := hfirst.andThen hsecond.displays
  rwa [List.append_nil] at h

/-- The lines of the metrics. -/
def figureLines (figures : List Figure) : List String :=
  figures.map fun figure => metricLine figure.1 figure.2

theorem displays_printDistribution (label : String) (distribution : DistributionComparison) :
    Displays (printDistribution label distribution) (figureLines (distribution.figures label)) :=
  (displays_println _).andThen ((displays_println _).andThen (displays_println _))

theorem displays_printResources (resources : AttemptResourceComparison) :
    Displays (printResources resources) (figureLines resources.figures) := by
  unfold printResources AttemptResourceComparison.figures
  cases resources.cpuTimeMicros with
  | none =>
      cases resources.peakRssBytes with
      | none => exact ((speaks_println _).andThen (speaks_println _)).displays
      | some rss => exact (displays_println _).behind (speaks_println _)
  | some cpu =>
      cases resources.peakRssBytes with
      | none => exact (displays_println _).before (speaks_println _)
      | some rss => exact (displays_println _).andThen (displays_println _)

theorem displays_printOptional {α : Type} (value : Option α) {print : α → Cli Unit}
    {figures : α → List Figure} (h : ∀ a, Displays (print a) (figureLines (figures a))) :
    Displays (printOptional value print) (figureLines (value.toList.flatMap figures)) := by
  cases value with
  | none => exact prints_nothing.speaks.displays
  | some a =>
      rw [Option.toList_some, List.flatMap_singleton]
      exact h a

theorem displays_printCompatible {comparison : EvidenceComparison}
    (hrequests : comparison.requests.isSome = true)
    (hrepetitions : comparison.repetitions.isSome = true) :
    Displays (printCompatible comparison) (figureLines comparison.figures) := by
  obtain ⟨requests, hrequests⟩ := Option.isSome_iff_exists.mp hrequests
  obtain ⟨repetitions, hrepetitions⟩ := Option.isSome_iff_exists.mp hrepetitions
  have hfigures : figureLines comparison.figures =
      figureLines (requests.latencyMicros.figures "request latency") ++
        (figureLines (requests.timeToFirstTokenMicros.figures "request TTFT") ++
        (figureLines (repetitions.aggregateLatencyMicros.figures "repetition aggregate latency") ++
        (figureLines
          (repetitions.aggregateTimeToFirstTokenMicros.figures "repetition aggregate TTFT") ++
        ([metricLine "repetition mean throughput (mreq/s)"
          repetitions.meanThroughputMilliRequestsPerSecond] ++
        figureLines
          (comparison.attemptResources.toList.flatMap AttemptResourceComparison.figures))))) := by
    simp [EvidenceComparison.figures, hrequests, hrepetitions, RequestScopeComparison.figures,
      RepetitionScopeComparison.figures, figureLines]
  rw [hfigures]
  -- the lines in the order in which the printer reaches them
  unfold printCompatible
  apply Displays.behind _ (speaks_println _)
  apply Displays.behind _ (speaks_forM _ _)
  rw [expect_bind hrequests]
  apply Displays.behind _ (speaks_println _)
  apply (displays_printDistribution _ _).andThen
  apply (displays_printDistribution _ _).andThen
  rw [expect_bind hrepetitions]
  apply Displays.behind _ (speaks_println _)
  apply (displays_printDistribution _ _).andThen
  apply (displays_printDistribution _ _).andThen
  apply (displays_println _).andThen
  exact (displays_printOptional _ displays_printResources).before (speaks_println _)

theorem displays_printHumanComparison {comparison : EvidenceComparison} (h : comparison.IsComplete)
    (hcompatible : comparison.compatible = true) :
    Displays (printHumanComparison comparison) (figureLines comparison.figures) := by
  obtain ⟨hrequests, hrepetitions⟩ := h hcompatible
  unfold printHumanComparison
  apply Displays.behind _ (speaks_println _)
  apply Displays.behind _ (speaks_println _)
  apply Displays.behind _ (speaks_println _)
  rw [if_pos hcompatible]
  exact displays_printCompatible hrequests hrepetitions

/-! ## The command -/

section

variable {codec : Codec} {surroundings : Surroundings} {disk : FileTree}
  {baselinePath candidatePath : List FileName} {comparison : EvidenceComparison}

theorem compareSections_of_compared {baseline candidate : VerifiedEvidenceBundle}
    (h : compareVerified baseline candidate = returns (.ok comparison)) :
    compareSections comparison.compatible baseline candidate =
      some (comparison.requests, comparison.repetitions, comparison.attemptResources) := by
  simp only [compareVerified, bind_eq_returns_ok, demand_eq_returns_ok] at h
  obtain ⟨-, -, baselineContract, -, candidateContract, -, baselineProvenance, -,
    candidateProvenance, -, ⟨requests, repetitions, resources⟩, hsections, hcomparison⟩ := h
  simp only [pure_eq] at hcomparison
  have hwhole := pure_eq_ok_iff.mp (returns_injective hcomparison)
  rw [← hwhole]
  -- without this the unifier evaluates the contracts
  dsimp only
  exact hsections

/-- What is compared are two verified bundles. -/
theorem exists_compared
    (h : compareBundlesOn codec surroundings disk baselinePath candidatePath =
      returns (.ok comparison)) :
    ∃ baseline candidate, compareVerified baseline candidate = returns (.ok comparison) := by
  unfold compareBundlesOn at h
  cases hfirst : surroundings.reads 0 with
  | some fault =>
      simp only [hfirst] at h
      cases returns_injective h
  | none =>
      cases hsecond : surroundings.reads 1 with
      | some fault =>
          simp only [hfirst, hsecond] at h
          obtain ⟨bundle, -, hnone⟩ := bind_eq_returns_ok.mp h
          cases returns_injective hnone
      | none =>
          simp only [hfirst, hsecond, compareEvidenceBundles, bind_eq_returns_ok] at h
          obtain ⟨baseline, -, candidate, -, hcompared⟩ := h
          exact ⟨baseline, candidate, hcompared⟩

/-- An incompatible comparison has no metrics, a compatible one has those of its two sections. -/
theorem figures_of_compared {baseline candidate : VerifiedEvidenceBundle}
    (h : compareVerified baseline candidate = returns (.ok comparison)) :
    (comparison.compatible = false → comparison.figures = []) ∧
    (comparison.IsComplete → comparison.compatible = true → 13 ≤ comparison.figures.length) := by
  constructor
  · intro hcompatible
    have hsections := compareSections_of_compared h
    rw [hcompatible] at hsections
    obtain ⟨hrequests, hrest⟩ := Prod.mk.inj (Option.some.inj hsections)
    obtain ⟨hrepetitions, hresources⟩ := Prod.mk.inj hrest
    simp [EvidenceComparison.figures, ← hrequests, ← hrepetitions, ← hresources]
  · intro hcomplete hcompatible
    obtain ⟨hrequests, hrepetitions⟩ := hcomplete hcompatible
    obtain ⟨requests, hrequests⟩ := Option.isSome_iff_exists.mp hrequests
    obtain ⟨repetitions, hrepetitions⟩ := Option.isSome_iff_exists.mp hrepetitions
    simp [EvidenceComparison.figures, hrequests, hrepetitions, RequestScopeComparison.figures,
      RepetitionScopeComparison.figures, DistributionComparison.figures]

/-- The human form of a comparison shows all its metrics. -/
theorem compareCommand_of_compared {process : Process}
    (h : compareBundlesOn codec surroundings process.disk baselinePath candidatePath =
      returns (.ok comparison)) :
    ∃ lines, compareCommand codec surroundings baselinePath candidatePath false process =
        report exitSuccess lines process ∧
      (figureLines comparison.figures).Sublist lines := by
  obtain ⟨result, hresult, hcomplete⟩ := @exists_compareBundlesOn codec surroundings process.disk
    baselinePath candidatePath
  obtain rfl := returns_injective (h.symm.trans hresult)
  have hprintable := hcomplete comparison rfl
  obtain ⟨baseline, candidate, hcompared⟩ := exists_compared h
  have hdisplays : Displays (printHumanComparison comparison) (figureLines comparison.figures) := by
    cases hcompatible : comparison.compatible with
    | true => exact displays_printHumanComparison hprintable hcompatible
    | false =>
        rw [(figures_of_compared hcompared).1 hcompatible]
        obtain ⟨line, rest, hlines⟩ := speaks_printHumanComparison hprintable
        exact hlines.speaks.displays
  obtain ⟨lines, hlines, hsublist⟩ := hdisplays
  refine ⟨lines, ?_, hsublist⟩
  unfold compareCommand
  rw [get_bind, expect_bind h]
  exact congrFun (hlines.report _) process

end

/-- When `evidence compare` succeeds in its human form, the lines of all metrics are on the
standard output in their order, and each of them is what integer arithmetic alone gives, unless
the candidate is beyond `2 ^ 35` times the baseline. -/
theorem compare_prints_figures (codec : Codec) (surroundings : Surroundings)
    (baselinePath candidatePath : List FileName) (disk : FileTree) (ended : Process)
    (h : execute codec surroundings (.evidence (.compare baselinePath candidatePath false))
      (.start disk) = some (exitSuccess, ended)) :
    ∃ comparison, compareBundlesOn codec surroundings disk baselinePath candidatePath =
        returns (.ok comparison) ∧
      (comparison.compatible = true → 13 ≤ comparison.figures.length) ∧
      (figureLines comparison.figures).Sublist ended.stdout ∧
      ∀ figure ∈ comparison.figures,
        (figure.2.baseline ≠ 0 →
          figure.2.candidate.toNat ≤ figure.2.baseline.toNat * 2 ^ 35) →
        metricLine figure.1 figure.2 =
          exactLine figure.1 figure.2.baseline figure.2.candidate := by
  have hcommand : compareCommand codec surroundings baselinePath candidatePath false
      (.start disk) = some (exitSuccess, ended) := h
  obtain ⟨result, hresult, hcomplete⟩ := @exists_compareBundlesOn codec surroundings disk
    baselinePath candidatePath
  cases result with
  | error error =>
      -- a refusal has another exit code
      unfold compareCommand at hcommand
      rw [get_bind, expect_bind (show compareBundlesOn codec surroundings
        (Process.start disk).disk baselinePath candidatePath = some (.error error) from hresult)]
        at hcommand
      obtain ⟨hcode, -⟩ := Prod.mk.inj (Option.some.inj hcommand)
      contradiction
  | ok comparison =>
      obtain ⟨lines, hprinted, hsublist⟩ := @compareCommand_of_compared codec surroundings
        baselinePath candidatePath comparison (.start disk) hresult
      rw [hprinted] at hcommand
      obtain ⟨-, rfl⟩ := of_conclude_eq_some hcommand
      obtain ⟨baseline, candidate, hcompared⟩ := exists_compared hresult
      refine ⟨comparison, hresult, ?_, ?_, ?_⟩
      · exact (figures_of_compared hcompared).2 (hcomplete comparison rfl)
      · simpa [Process.written, Process.start, Process.facing] using hsublist
      · intro figure hfigure hratio
        have hcomputed := isComputed_of_compareSections (compareSections_of_compared hcompared)
          figure hfigure
        unfold Figure.IsComputed at hcomputed
        rw [hcomputed]
        exact metricLine_metricOf figure.1 hratio

namespace SamplePair

/-- The two sample bundles are compared. -/
theorem exists_compared_pair : ∃ comparison,
    compareBundlesOn codec SampleRun.surroundings disk (root .baseline).path
      (root .candidate).path = returns (.ok comparison) := by
  obtain ⟨contract, hcontract⟩ := isEligible .baseline
  obtain ⟨contract', hcontract'⟩ := isEligible .candidate
  obtain ⟨comparison, hcompared, -⟩ := exists_compareVerified_of_contracts
    (verifies .baseline).established (verifies .candidate).established runId_ne hcontract
    hcontract' rfl
  refine ⟨comparison, ?_⟩
  exact (compareEvidenceBundles_eq (verifies .baseline) (verifies .candidate)).trans hcompared

end SamplePair

/-- The sample pair is compared and shown. -/
theorem compare_prints_figures_sample : ∃ comparison ended,
    execute SamplePair.codec SampleRun.surroundings
        (.evidence (.compare (SamplePair.root .baseline).path (SamplePair.root .candidate).path
          false)) (.start SamplePair.disk) = some (exitSuccess, ended) ∧
      compareBundlesOn SamplePair.codec SampleRun.surroundings SamplePair.disk
        (SamplePair.root .baseline).path (SamplePair.root .candidate).path =
          returns (.ok comparison) ∧
      (figureLines comparison.figures).Sublist ended.stdout := by
  obtain ⟨sample, hsample⟩ := SamplePair.exists_compared_pair
  obtain ⟨lines, hprinted, -⟩ := @compareCommand_of_compared SamplePair.codec
    SampleRun.surroundings (SamplePair.root .baseline).path (SamplePair.root .candidate).path
    sample (.start SamplePair.disk) hsample
  have hended := hprinted.trans (report_start _ _ _)
  obtain ⟨comparison, hcompared, -, hsublist, -⟩ :=
    compare_prints_figures _ _ _ _ _ _ hended
  exact ⟨comparison, _, hended, hcompared, hsublist⟩

end Benchplane
