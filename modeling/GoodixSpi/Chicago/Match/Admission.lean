import GoodixSpi.Chicago.Match.Template

/-! When a match scores. At most 31 pairs can agree, fewer than three never admit a
candidate, and the second pass admits none, so the sign of the score tells admission. -/

namespace GoodixSpi.Chicago

open CArithmetic

/-! ### How many pairs agree -/

lemma length_selectCandidates_le (newRecords : List FeatureRecord)
    (candidates : List MatchCandidate) (limit bestMultiplier secondMultiplier : Nat) :
    (selectCandidates newRecords candidates limit bestMultiplier secondMultiplier).length ≤
      limit := by
  simp only [selectCandidates]
  split
  · exact Nat.zero_le _
  · rw [List.length_map]
    exact length_foldl_selectCandidate limit newRecords _ [] (Nat.zero_le _)

lemma length_ordinaryCorrespondences_le (galleryRecords : List FeatureRecord) (gallerySplit : Nat)
    (probeRecords : List FeatureRecord) (probeSplit : Nat) :
    (ordinaryCorrespondences galleryRecords gallerySplit probeRecords probeSplit).length ≤
      matchPairLimit := by
  simp only [ordinaryCorrespondences, ordinaryCorrespondencesWithGates]
  split
  · exact length_selectCandidates_le _ _ _ _ _
  · exact Nat.zero_le _

section Search

variable {pairs : List PointPair} {minimumInliers : Nat} {strict : Bool}

/-- Every result of the search has one flag for each pair. -/
def FlagsPairs (pairs : List PointPair) (result : MatchGeometry) : Prop :=
  result.inliers.length = pairs.length

abbrev SearchFlagsPairs (pairs : List PointPair)
    (step : EarlyExit.Step GeometrySearch MatchGeometry) : Prop :=
  step.Meets (fun search => FlagsPairs pairs search.result) (FlagsPairs pairs)

lemma considerThird_flagsPairs (p₀ p₁ : PointPair) (search : GeometrySearch) (p₂ : PointPair)
    (start : FlagsPairs pairs search.result) :
    SearchFlagsPairs pairs (considerThird pairs minimumInliers strict p₀ p₁ search p₂) := by
  simp only [considerThird]
  split
  · exact start
  · split
    · exact start
    · split
      · exact start
      · split
        · simp only [SearchFlagsPairs, EarlyExit.Step.Meets, FlagsPairs, List.length_map]
        · simp only [SearchFlagsPairs, EarlyExit.Step.Meets, FlagsPairs, List.length_map]

lemma considerSecond_flagsPairs (p₀ : PointPair) (search : GeometrySearch)
    (tail : List PointPair) (start : FlagsPairs pairs search.result) :
    SearchFlagsPairs pairs (considerSecond pairs minimumInliers strict p₀ search tail) := by
  cases tail with
  | nil => exact start
  | cons p₁ later =>
    simp only [considerSecond]
    split
    · exact EarlyExit.run_meets (considerThird_flagsPairs p₀ p₁) later start
    · exact start

lemma considerFirst_flagsPairs (search : GeometrySearch) (tail : List PointPair)
    (start : FlagsPairs pairs search.result) :
    SearchFlagsPairs pairs (considerFirst pairs minimumInliers strict search tail) := by
  cases tail with
  | nil => exact start
  | cons p₀ later =>
    simp only [considerFirst]
    split
    · exact EarlyExit.run_meets (considerSecond_flagsPairs p₀) later.tails start
    · exact start

lemma estimateGeometry_flagsPairs :
    FlagsPairs pairs (estimateGeometry pairs minimumInliers strict) := by
  have start : FlagsPairs pairs (MatchGeometry.init pairs.length) := List.length_replicate
  have whole : SearchFlagsPairs pairs (EarlyExit.run (considerFirst pairs minimumInliers strict)
      pairs.tails ⟨0, .init pairs.length⟩) :=
    EarlyExit.run_meets considerFirst_flagsPairs pairs.tails start
  unfold estimateGeometry
  split
  · next search run =>
    rw [run] at whole
    exact whole
  · next result run =>
    rw [run] at whole
    exact whole

end Search

lemma geometryConsensus_inlierCount_le (pairs : List PointPair) (minimumInliers : Nat) :
    (geometryConsensus pairs minimumInliers).inlierCount ≤ pairs.length := by
  simp only [geometryConsensus]
  refine List.count_le_length.trans ?_
  simp only [filterOrientations]
  split
  · exact estimateGeometry_flagsPairs.le
  · rw [List.length_zipWith]
    exact Nat.min_le_left _ _

lemma geometryConsensusRecords_inlierCount_le (galleryRecords probeRecords : List FeatureRecord)
    (pairs : List Correspondence) (minimumInliers : Nat) :
    (geometryConsensusRecords galleryRecords probeRecords pairs minimumInliers).inlierCount ≤
      pairs.length := by
  refine (geometryConsensus_inlierCount_le _ _).trans ?_
  refine (List.length_take_le' _ _).trans ?_
  exact List.length_filterMap_le _ _

/-- The two counts of a score record are one number, at most 31; below three nothing else
was measured. -/
lemma scoreSubtemplateType24_count (gallery probe : SubtemplateView) :
    ∃ count ≤ 31,
      (scoreSubtemplateType24 gallery probe).1.secondaryGeometryCount = Int32.ofNat count ∧
        (count < 3 → ∃ geometry : MatchGeometry, geometry.inlierCount = count ∧
          (scoreSubtemplateType24 gallery probe).1 = .ofGeometry gallery probe geometry) := by
  let pairs := ordinaryCorrespondences gallery.records gallery.activeCount probe.records
    probe.activeCount
  let geometry := geometryConsensusRecords gallery.records probe.records pairs 3
  have few : geometry.inlierCount ≤ 31 :=
    (geometryConsensusRecords_inlierCount_le _ _ _ _).trans
      (length_ordinaryCorrespondences_le _ _ _ _)
  refine ⟨geometry.inlierCount, few, ?_, fun small => ⟨geometry, rfl, ?_⟩⟩
  · simp only [scoreSubtemplateType24]
    split
    · rfl
    · split
      · split
        · rfl
        · rfl
      · rfl
  · simp only [scoreSubtemplateType24]
    rw [if_pos (Or.inl small)]

/-! ### Who is admitted -/

/-- Two pairs are no evidence: the missing coverage takes thirteen away. -/
lemma schedulerEvidence_of_few (gallery probe : SubtemplateView) {geometry : MatchGeometry}
    (few : geometry.inlierCount < 3) (qualityA qualityB : Int32) :
    (schedulerEvidenceType24 (.ofGeometry gallery probe geometry) qualityA qualityB true).status =
      0 := by
  have weighed : ∀ count < 3, ∀ record : MatchScoreRecord,
      record.geometryCount = Int32.ofNat count → record.secondaryGeometryCount = Int32.ofNat count →
      record.agreement = 0 → record.matchedPercent = 0 → record.normalizedCoverage = 0 →
      record.penaltyFlagA = 0 → record.penaltyFlagB = 0 →
      (weighEvidence record true).status = false := by
    intro count small record primary secondary agreement percent coverage flagA flagB
    simp only [WeighedEvidence.status, WeighedEvidence.primaryLimit,
      WeighedEvidence.secondaryLimit, weighEvidence, primary, secondary, agreement, percent,
      coverage, flagA, flagB]
    obtain rfl | rfl | rfl : count = 0 ∨ count = 1 ∨ count = 2 := by omega
    · decide
    · decide
    · decide
  have status := weighed geometry.inlierCount few (.ofGeometry gallery probe geometry) rfl rfl rfl
    rfl rfl rfl rfl
  simp only [schedulerEvidenceType24, status]
  rfl

/-- The policy keeps the status it is given, or clears it. -/
lemma lateRejection_status {width height : UInt32} {probeQuality : Int32}
    {record : MatchScoreRecord} {transform : Transform} {currentAuxiliary candidateAuxiliary
      combinedAuxiliary rejectionCount statusFlag : Int32} {late : LateRejection}
    (run : matchLateRejectionType24 width height probeQuality record transform currentAuxiliary
      candidateAuxiliary combinedAuxiliary rejectionCount statusFlag = late) :
    late.statusFlag = statusFlag ∨ late.statusFlag = 0 := by
  rw [← run]
  unfold matchLateRejectionType24
  split
  · unfold matchLateRejectionPolicyType24
    dsimp only
    generalize type24ShouldClearStatus _ = clears
    cases clears with
    | true => exact .inr rfl
    | false => exact .inl rfl
  · exact .inl rfl

/-- The status is kept or cleared. -/
def StudyAdmission.Cleared (before after : StudyAdmission) : Prop :=
  after.status = before.status ∨ after.status = 0

lemma StudyAdmission.Cleared.trans {a b c : StudyAdmission} (first : a.Cleared b)
    (second : b.Cleared c) : a.Cleared c := by
  rcases second with kept | cleared
  · rw [Cleared, kept]
    exact first
  · exact .inr cleared

section Filters

variable (record : MatchScoreRecord) (input : StudyAdmissionInput) (admission : StudyAdmission)

lemma filterStudy_cleared : admission.Cleared (filterStudy record input admission) := by
  unfold filterStudy
  split
  · exact .inl rfl
  · exact .inl rfl

lemma filterEvidence_cleared : admission.Cleared (filterEvidence record input admission) := by
  have supported : admission.Cleared
      (if admission.status = 1 ∧ weakForAuxiliary record input = true then ⟨0, 0⟩
        else admission) := by
    split
    · exact .inr rfl
    · exact .inl rfl
  refine supported.trans ?_
  unfold filterEvidence
  dsimp only
  generalize (if admission.status = 1 ∧ weakForAuxiliary record input = true then ⟨0, 0⟩
    else admission : StudyAdmission) = before
  split
  · exact .inr rfl
  · exact .inl rfl

lemma filterSource_cleared : admission.Cleared (filterSource record input admission) := by
  unfold filterSource
  split
  · exact .inl rfl
  · split
    · cases clears : clearsStatus record with
      | true => exact .inr rfl
      | false => exact .inl rfl
    · exact .inl rfl

lemma filterStudyAdmissionType24_cleared :
    admission.Cleared (filterStudyAdmissionType24 record input admission) := by
  have studied := filterStudy_cleared record input admission
  simp only [filterStudyAdmissionType24]
  split
  · exact studied
  · exact (studied.trans (filterEvidence_cleared record input _)).trans
      (filterSource_cleared record input _)

end Filters

/-! ### One round of the scan -/

lemma MatchScan.acceptCandidate_aggregation (scan : MatchScan) (index : Nat)
    (record : MatchScoreRecord) (status candidateMetric : Int32) :
    (scan.acceptCandidate index record status candidateMetric).aggregation =
      scan.aggregation.addGeometry record.secondaryGeometryCount.toInt 31 := by
  unfold acceptCandidate
  dsimp only
  split
  · rfl
  · rfl

lemma MatchScan.noteRelation_aggregation (scan : MatchScan) (status : Int32) (index : Nat)
    (geometry : MatchGeometry) :
    (scan.noteRelation status index geometry).aggregation = scan.aggregation := by
  unfold noteRelation
  split
  · rfl
  · rfl

lemma int32_ofNat_toInt {count : Nat} (few : count ≤ 31) : (Int32.ofNat count).toInt = count := by
  have table : ∀ count < 32, (Int32.ofNat count).toInt = count := by decide
  exact table count (by omega)

/-- A status that survives is the status of the evidence. -/
lemma candidateVerdict_status {probe : SubtemplateView} {record : MatchScoreRecord}
    {transform : Transform} {auxiliaryCount combinedAuxiliary rejectionCount : Int32}
    {verdict : CandidateVerdict}
    (decided : candidateVerdict probe record transform auxiliaryCount combinedAuxiliary
      rejectionCount = verdict) :
    verdict.admission.status = (schedulerEvidenceType24 record probe.quality.toInt32
      probe.coverage.toInt32 true).status ∨ verdict.admission.status = 0 := by
  rw [← decided]
  unfold candidateVerdict
  dsimp only
  generalize run : matchLateRejectionType24 _ _ _ _ _ _ _ _ _ _ = late
  rcases filterStudyAdmissionType24_cleared record
      (studyAdmissionInput probe auxiliaryCount transform)
      ⟨late.statusFlag, (schedulerEvidenceType24 record probe.quality.toInt32
        probe.coverage.toInt32 true).confidence⟩ with kept | cleared
  · rcases lateRejection_status run with same | cleared
    · exact .inl (kept.trans same)
    · exact .inr (kept.trans cleared)
  · exact .inr cleared

/-- An admitted score record has three pairs at least. -/
lemma admitted_count (gallery probe : SubtemplateView) {status selectorThreshold : Int32}
    {qualityA qualityB : Int32}
    (kept : status = (schedulerEvidenceType24 (scoreSubtemplateType24 gallery probe).1 qualityA
      qualityB true).status ∨ status = 0)
    (accepted : acceptType24 (scoreSubtemplateType24 gallery probe).1.selector
      (scoreSubtemplateType24 gallery probe).1.agreement status selectorThreshold = true) :
    ∃ count : Nat, 3 ≤ count ∧ count ≤ 31 ∧
      (scoreSubtemplateType24 gallery probe).1.secondaryGeometryCount.toInt = count := by
  obtain ⟨count, few, secondary, measured⟩ := scoreSubtemplateType24_count gallery probe
  refine ⟨count, ?_, few, by rw [secondary, int32_ofNat_toInt few]⟩
  by_contra small
  obtain ⟨geometry, counted, blank⟩ := measured (by omega)
  rw [blank] at kept accepted
  have quiet : status = 0 := by
    rcases kept with evidence | cleared
    · rw [evidence]
      exact schedulerEvidence_of_few gallery probe (by omega) qualityA qualityB
    · exact cleared
  simp only [acceptType24, quiet, Bool.or_eq_true, Bool.and_eq_true, decide_eq_true_eq] at accepted
  rcases accepted with one | ⟨-, agrees⟩
  · exact absurd one (by decide)
  · exact absurd agrees (by decide : ¬(0 : Int32) > 195)

/-- Rounds that go on leave the aggregation alone; the admitting one adds its pairs. -/
lemma matchCandidate_meets (probe : SubtemplateView) (selectorThreshold : Int32)
    (scan : MatchScan) (entry : Nat × SubtemplateView) :
    (matchCandidate probe selectorThreshold scan entry).Meets
      (fun after => after.aggregation = scan.aggregation)
      (fun outcome => ∀ admitted, outcome = some admitted →
        ∃ count : Nat, 3 ≤ count ∧ count ≤ 31 ∧
          admitted.aggregation = scan.aggregation.addGeometry count 31) := by
  obtain ⟨index, gallery⟩ := entry
  unfold matchCandidate
  dsimp only
  cases gallery.metricData with
  | none =>
    intro admitted none
    cases none
  | some metricData =>
    dsimp only
    split
    · rfl
    · generalize decided : candidateVerdict probe _ _ _ _ _ = verdict
      have kept := candidateVerdict_status decided
      split
      · exact MatchScan.noteRelation_aggregation _ _ _ _
      · split
        · next accepted =>
          intro admitted found
          cases found
          obtain ⟨count, some, few, same⟩ := admitted_count gallery probe kept accepted
          refine ⟨count, some, few, ?_⟩
          rw [MatchScan.acceptCandidate_aggregation, same]
          exact congrArg (MatchAggregation.addGeometry · _ _)
            (MatchScan.noteRelation_aggregation _ _ _ _)
        · exact MatchScan.noteRelation_aggregation _ _ _ _

/-! ### The score -/

namespace MatchAggregation

/-- Nothing is accepted yet, and no score is forced. -/
def Refused (aggregation : MatchAggregation) : Prop :=
  aggregation.acceptedCount = 0 ∧ aggregation.fallbackScore = 0

lemma consumeFallbackType24_refused {aggregation : MatchAggregation} (refused : aggregation.Refused)
    (geometryCount selector agreement coverage selectorThreshold : Int) :
    (aggregation.consumeFallbackType24 geometryCount selector agreement coverage
      selectorThreshold).Refused := by
  unfold consumeFallbackType24
  dsimp only
  split
  · exact refused
  · split
    · exact refused
    · split
      · exact refused
      · exact refused

lemma consumeFallbackRecordsType24_refused {aggregation : MatchAggregation}
    (refused : aggregation.Refused) (gallery probe : SubtemplateView) (selectorThreshold : Int) :
    (aggregation.consumeFallbackRecordsType24 gallery probe selectorThreshold).Refused := by
  unfold consumeFallbackRecordsType24
  dsimp only
  split
  · split
    · exact consumeFallbackType24_refused refused _ _ _ _ _
    · exact refused
  · exact consumeFallbackType24_refused refused _ _ _ _ _

/-- A refusal has one of eight scores. -/
lemma score_of_refused {aggregation : MatchAggregation} (refused : aggregation.Refused) :
    -7 ≤ aggregation.score ∧ aggregation.score ≤ 0 := by
  have reason : 0 ≤ aggregation.reason ∧ aggregation.reason ≤ 7 := by
    unfold reason
    split
    · split
      · split
        · split
          · decide
          · decide
        · split
          · decide
          · decide
      · decide
    · split
      · split
        · split
          · decide
          · decide
        · split
          · decide
          · decide
      · decide
  have score : aggregation.score = -aggregation.reason := by
    simp [MatchAggregation.score, refused.1, refused.2]
  omega

lemma score_of_accepted {count : Nat} (some : 3 ≤ count) (few : count ≤ 31) :
    (zero.addGeometry count 31).acceptedCount = 1 ∧ 0 < (zero.addGeometry count 31).score ∧
      (zero.addGeometry count 31).score ≤ 100 := by
  have table : ∀ count < 32, 3 ≤ count → (zero.addGeometry (count : Nat) 31).acceptedCount = 1 ∧
      0 < (zero.addGeometry (count : Nat) 31).score ∧
        (zero.addGeometry (count : Nat) 31).score ≤ 100 := by
    decide
  exact table count (by omega) some

end MatchAggregation

section Score

variable {schedule : List (Nat × SubtemplateView)} {probe : SubtemplateView}
  {probePackedResolution : UInt32} {selectorThreshold : Int32}

lemma run_meets_aggregation (schedule : List (Nat × SubtemplateView)) (probe : SubtemplateView)
    (probePackedResolution : UInt32) (selectorThreshold : Int32) :
    (EarlyExit.run (matchCandidate probe selectorThreshold) schedule
      (.init probePackedResolution)).Meets
      (fun scan => scan.aggregation = .zero)
      (fun outcome => ∀ admitted, outcome = some admitted →
        ∃ count : Nat, 3 ≤ count ∧ count ≤ 31 ∧
          admitted.aggregation = MatchAggregation.zero.addGeometry count 31) := by
  refine EarlyExit.run_meets (fun scan entry untouched => ?_) schedule rfl
  have round := matchCandidate_meets probe selectorThreshold scan entry
  rwa [untouched] at round

/-- An admitting scan has a positive score, at most 100. -/
lemma finish_of_stop {scan : MatchScan}
    (run : EarlyExit.run (matchCandidate probe selectorThreshold) schedule
      (.init probePackedResolution) = .stop (some scan)) :
    scan.aggregation.acceptedCount > 0 ∧ 0 < scan.aggregation.score ∧
      scan.aggregation.score ≤ 100 := by
  have met := run_meets_aggregation schedule probe probePackedResolution selectorThreshold
  rw [run] at met
  obtain ⟨count, some, few, same⟩ := met scan rfl
  obtain ⟨one, positive, bound⟩ := MatchAggregation.score_of_accepted some few
  rw [same]
  exact ⟨by rw [one]; decide, positive, bound⟩

lemma finish_of_next {scan : MatchScan}
    (run : EarlyExit.run (matchCandidate probe selectorThreshold) schedule
      (.init probePackedResolution) = .next scan) :
    -7 ≤ (scan.finish schedule probe selectorThreshold).score ∧
      (scan.finish schedule probe selectorThreshold).score ≤ 0 := by
  have met := run_meets_aggregation schedule probe probePackedResolution selectorThreshold
  rw [run] at met
  have untouched : scan.aggregation = .zero := met
  have refused : ∀ (entries : List (Nat × SubtemplateView)) (aggregation : MatchAggregation),
      aggregation.Refused →
      (entries.foldl (scan.consumeFallback probe selectorThreshold) aggregation).Refused := by
    intro entries
    induction entries with
    | nil => exact fun _ held => held
    | cons entry rest ih =>
      intro aggregation held
      refine ih _ ?_
      simp only [MatchScan.consumeFallback]
      split
      · exact held
      · exact MatchAggregation.consumeFallbackRecordsType24_refused held _ _ _
  have score : (scan.finish schedule probe selectorThreshold).score =
      (schedule.foldl (scan.consumeFallback probe selectorThreshold) .zero).score := by
    simp [MatchScan.finish, untouched, MatchAggregation.zero]
  rw [score]
  exact MatchAggregation.score_of_refused (refused schedule .zero ⟨rfl, rfl⟩)

end Score

/-- The scan stops at a candidate that it admits. -/
def Enrollment.Admits (e : Enrollment) (probe : SubtemplateView) (selectorThreshold : Int32) :
    Prop :=
  e.count ≤ enrollmentCapacity ∧ ∃ metricData scan, probe.metricData = some metricData ∧
    EarlyExit.run (matchCandidate probe selectorThreshold) e.schedule
      (.init metricData.packedResolution) = .stop (some scan)

/-- Every score lies in -7 .. 100, and it is positive exactly when a candidate was
admitted. -/
theorem matchTemplateType24_score {e : Enrollment} {probe : SubtemplateView}
    {selectorThreshold : Int32} {result : MatchTemplateResult}
    (matched : e.matchTemplateType24 probe selectorThreshold = some result) :
    (-7 ≤ result.score ∧ result.score ≤ 100) ∧
      (0 < result.score ↔ e.Admits probe selectorThreshold) := by
  unfold Enrollment.matchTemplateType24 at matched
  split at matched
  · next full =>
    cases matched
    refine ⟨by decide, fun positive => absurd positive (by decide), ?_⟩
    rintro ⟨few, -⟩
    omega
  · next few =>
    split at matched
    · cases matched
    · next metricData given =>
      obtain ⟨inner, found, rfl⟩ := Option.map_eq_some_iff.mp matched
      unfold matchSchedule at found
      split at found
      · cases found
      · next scan run =>
        cases found
        obtain ⟨accepted, positive, bound⟩ := finish_of_stop run
        have score : (scan.finish e.schedule probe selectorThreshold).score =
            scan.aggregation.score := by
          simp only [MatchScan.finish, if_pos accepted]
        dsimp only
        rw [score]
        refine ⟨⟨by omega, bound⟩, fun _ => ⟨by omega, metricData, scan, given, run⟩,
          fun _ => positive⟩
      · next scan run =>
        cases found
        obtain ⟨low, high⟩ := finish_of_next run
        refine ⟨⟨low, by dsimp only; omega⟩,
          fun positive => absurd positive (by dsimp only; omega), ?_⟩
        rintro ⟨-, other, stopped, given', run'⟩
        rw [given] at given'
        cases given'
        rw [run] at run'
        cases run'

end GoodixSpi.Chicago
