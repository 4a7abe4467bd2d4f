import GoodixSpi.Chicago.LateRejection.Policy
import GoodixSpi.Chicago.Enrollment.CapacityScore
import GoodixSpi.Chicago.Match.Scheduler
import GoodixSpi.Chicago.Match.Score

/-! Matching a probe against a template: the sub-templates are scored in match order until
one is admitted; if none is, a second pass gathers the reasons for the refusal. -/

namespace GoodixSpi.Chicago

open CArithmetic

/-! ### The aggregation -/

/-- `match_divide_nearest`. -/
def matchDivideNearest (numerator denominator : Int) : Int :=
  if denominator > 0 then quotient (numerator + quotient denominator 2) denominator else 0

structure MatchAggregation where
  acceptedCount : Int
  acceptedGeometryQ8Sum : Int
  fallbackScore : Int
  fallbackEvaluatedCount : Int
  fallbackMaxMetric : Int
  fallbackBestMetric : Int
  fallbackBestGeometry : Int
  fallbackBestCoverage : Int
  fallbackGeometrySum : Int
deriving DecidableEq

namespace MatchAggregation

def zero : MatchAggregation := ⟨0, 0, 0, 0, 0, 0, 0, 0, 0⟩

variable (self : MatchAggregation)

/-- `goodix_chicago_match_aggregation_add_geometry`. -/
def addGeometry (geometryCount geometryLimit : Int) : MatchAggregation :=
  if 0 ≤ geometryCount ∧ 0 < geometryLimit then
    { self with
      acceptedCount := self.acceptedCount + 1
      acceptedGeometryQ8Sum :=
        self.acceptedGeometryQ8Sum + matchDivideNearest (geometryCount * 256) geometryLimit }
  else self

/-- The three bits of a refusal. -/
def reason : Int :=
  (if self.fallbackGeometrySum < 6 then 4 else 0) +
    if self.fallbackEvaluatedCount = 1 then
      (if self.fallbackMaxMetric < 208 then 2 else 0) +
        if self.fallbackBestCoverage < 128 then 1 else 0
    else 0

/-- `goodix_chicago_match_aggregation_score`. -/
def score : Int :=
  if self.acceptedCount > 0 then
    shiftRight (quotient (self.acceptedGeometryQ8Sum * 100) self.acceptedCount) 8
  else if self.fallbackScore > 0 then min self.fallbackScore 100
  else -self.reason

/-- `goodix_chicago_match_aggregation_consume_fallback_type24`. -/
def consumeFallbackType24 (geometryCount selector agreement coverage selectorThreshold : Int) :
    MatchAggregation :=
  if geometryCount ≤ 4 then self
  else
    let evaluated := { self with fallbackEvaluatedCount := 1 }
    if selector ≤ selectorThreshold ∨ agreement ≤ 195 then evaluated
    else
      let summed := { evaluated with
        fallbackGeometrySum := self.fallbackGeometrySum + geometryCount
        fallbackMaxMetric := max self.fallbackMaxMetric agreement }
      if agreement > self.fallbackBestMetric ∨
          (agreement = self.fallbackBestMetric ∧ geometryCount > self.fallbackBestGeometry) ∨
          (agreement = self.fallbackBestMetric ∧ geometryCount = self.fallbackBestGeometry ∧
            coverage > self.fallbackBestCoverage) then
        { summed with
          fallbackBestMetric := agreement
          fallbackBestGeometry := geometryCount
          fallbackBestCoverage := coverage }
      else summed

/-- `goodix_chicago_match_aggregation_consume_fallback_records_type24`. Without metric data
it stops before the aggregation. -/
def consumeFallbackRecordsType24 (gallery probe : SubtemplateView) (selectorThreshold : Int) :
    MatchAggregation :=
  let pairs := fallbackCorrespondences gallery.records gallery.activeCount probe.records
    probe.activeCount
  let geometry := geometryConsensusRecords gallery.records probe.records pairs 4
  if geometry.inlierCount > 4 then
    match gallery.metricData, probe.metricData with
    | some old, some new =>
      let metrics := calculateConfig1Metrics new old geometry.transform
      self.consumeFallbackType24 geometry.inlierCount metrics.selectorScore metrics.metricA
        metrics.metricB selectorThreshold
    | _, _ => self
  else self.consumeFallbackType24 geometry.inlierCount 0 0 0 selectorThreshold

end MatchAggregation

/-! ### The result -/

/-- No selected index stands for `-1`. -/
structure MatchTemplateResult where
  score : Int
  selectedIndex : Option Nat
  selectedIndexKnown : Bool
  studyAuxiliaryCount : Int32
  studyAuxiliaryCountKnown : Bool
  studyCandidateMetric : Int32
  studyEligible : Bool
  studyEligibilityKnown : Bool
  studyRelationCount : Nat
  studyRelations : Vector Relation enrollmentCapacity
deriving DecidableEq

def MatchTemplateResult.init : MatchTemplateResult where
  score := 0
  selectedIndex := none
  selectedIndexKnown := false
  studyAuxiliaryCount := 0
  studyAuxiliaryCountKnown := false
  studyCandidateMetric := 0
  studyEligible := false
  studyEligibilityKnown := false
  studyRelationCount := 0
  studyRelations := Vector.replicate _ ⟨0, Vector.replicate 6 0⟩

/-! ### The scan -/

/-- The locals of the scan. What the source keeps in arrays but reads only in the round
that wrote it is local to the round here. -/
structure MatchScan where
  aggregation : MatchAggregation
  records : Vector MatchScoreRecord enrollmentCapacity
  lateRejected : Vector Bool enrollmentCapacity
  scheduler : SchedulerAuxiliary
  studyEligibleAny : Bool
  bestCandidateScore : Int32
  rejectionCount : Int32
  result : MatchTemplateResult
deriving DecidableEq

def MatchScan.init (probePackedResolution : UInt32) : MatchScan where
  aggregation := .zero
  records := Vector.replicate _ .zero
  lateRejected := Vector.replicate _ false
  scheduler := .init probePackedResolution
  studyEligibleAny := false
  bestCandidateScore := 0
  rejectionCount := 0
  result := .init

namespace MatchScan

variable (scan : MatchScan)

/-- The state after the auxiliary counts and the score of a candidate are known. -/
def scored (scheduler : SchedulerAuxiliary) (index : Nat) (record : MatchScoreRecord) : MatchScan :=
  { scan with
    scheduler := scheduler
    records := scan.records.setIfInBounds index record }

/-- Candidates with status 1 leave their geometry to study. -/
def noteRelation (status : Int32) (index : Nat) (geometry : MatchGeometry) : MatchScan :=
  if status = 1 then
    { scan with result := { scan.result with
        studyRelations := scan.result.studyRelations.setIfInBounds index
          ⟨Int32.ofNat geometry.inlierCount, geometry.transform⟩ } }
  else scan

def noteRejection (index : Nat) (late : LateRejection) : MatchScan :=
  { scan with
    lateRejected := scan.lateRejected.setIfInBounds index late.rejected
    rejectionCount := late.rejectionCount }

def noteEligibility (admission : StudyAdmission) : MatchScan :=
  { scan with studyEligibleAny := scan.studyEligibleAny || admission.studyEligible != 0 }

/-- The admission of a candidate. -/
def acceptCandidate (index : Nat) (record : MatchScoreRecord) (status candidateMetric : Int32) :
    MatchScan :=
  let aggregated := { scan with
    aggregation := scan.aggregation.addGeometry record.secondaryGeometryCount.toInt 31 }
  if status ≠ 0 ∧ record.secondaryGeometryCount > scan.bestCandidateScore then
    { aggregated with
      bestCandidateScore := record.secondaryGeometryCount
      result := { scan.result with
        selectedIndex := some index
        studyAuxiliaryCount := scan.scheduler.auxiliaryCount
        studyAuxiliaryCountKnown := true
        studyCandidateMetric := candidateMetric } }
  else aggregated

end MatchScan

/-- `probe->live_auxiliary.values[0]`. -/
def SubtemplateView.candidateMetric (probe : SubtemplateView) : Int32 :=
  Int32.ofNat (probe.liveAuxiliary.get 0).toNat

/-- The live counts are taken from the third level of the candidate metric on. -/
def studyAdmissionInput (probe : SubtemplateView) (auxiliaryCount : Int32)
    (transform : Transform) : StudyAdmissionInput :=
  let counts := if probe.candidateMetric ≥ 3 then
      calculateLiveAuxiliaryCountsType24 probe.liveAuxiliary transform
    else ⟨0, 0, 0⟩
  { auxiliaryCount := auxiliaryCount
    candidateMetric := probe.candidateMetric
    probeQuality := probe.quality.toInt32
    probeAuxiliary := probe.densityPositivePercent.toInt32
    aggregateMetric := Int32.ofInt (studyAggregateQ8Type24 counts.zero counts.mixed counts.one) }

/-- What is decided about a candidate that passes the prefilter. -/
structure CandidateVerdict where
  evidence : SchedulerEvidence
  late : LateRejection
  admission : StudyAdmission

/-- The admission is of use only without a late rejection. -/
def candidateVerdict (probe : SubtemplateView) (record : MatchScoreRecord) (transform : Transform)
    (auxiliaryCount combinedAuxiliary rejectionCount : Int32) : CandidateVerdict :=
  let evidence := schedulerEvidenceType24 record probe.quality.toInt32 probe.coverage.toInt32 true
  let late := matchLateRejectionType24 80 64 probe.quality.toInt32 record transform
    auxiliaryCount probe.candidateMetric combinedAuxiliary rejectionCount evidence.status
  { evidence := evidence
    late := late
    admission := filterStudyAdmissionType24 record
      (studyAdmissionInput probe auxiliaryCount transform)
      ⟨late.statusFlag, evidence.confidence⟩ }

/-- One round of the scan. It returns the state of an admission, or none where the source
dereferences the metric data of a sub-template that has none. -/
def matchCandidate (probe : SubtemplateView) (selectorThreshold : Int32) (scan : MatchScan)
    (entry : Nat × SubtemplateView) : EarlyExit.Step MatchScan (Option MatchScan) :=
  let (index, gallery) := entry
  match gallery.metricData with
  | none => .stop none
  | some metricData =>
    let (combined, scheduler) :=
      scan.scheduler.consume metricData.packedResolution scan.rejectionCount
    let (record, geometry) := scoreSubtemplateType24 gallery probe
    let scored := scan.scored scheduler index record
    if candidatePrefilterType24 record scheduler.auxiliaryCount probe.candidateMetric then
      .next scored
    else
      let verdict := candidateVerdict probe record geometry.transform scheduler.auxiliaryCount
        combined scan.rejectionCount
      let noted := (scored.noteRelation verdict.evidence.status index geometry).noteRejection index
        verdict.late
      if verdict.late.rejected then .next noted
      else
        let studied := noted.noteEligibility verdict.admission
        let status := verdict.admission.status
        if acceptType24 record.selector record.agreement status selectorThreshold then
          .stop (some (studied.acceptCandidate index record status probe.candidateMetric))
        else .next studied

/-! ### The whole match -/

namespace Enrollment

variable (self : Enrollment)

/-- The sub-template at a place of the match order, if both lookups succeed. -/
def scheduledSubtemplate (schedule : Nat) : Option (Nat × SubtemplateView) :=
  (self.getMatchOrderIndex schedule).bind fun index =>
    self.subtemplates[index]?.map fun subtemplate => (index, subtemplate.view)

def schedule : List (Nat × SubtemplateView) :=
  (List.range self.count).filterMap self.scheduledSubtemplate

end Enrollment

/-- `goodix_chicago_match_fallback_gallery_enabled_type24`. -/
def fallbackGalleryEnabledType24 (primaryGeometryCount scratchState galleryState : Int32) : Bool :=
  scratchState == 0 && galleryState == 1 && primaryGeometryCount ≥ 3

namespace MatchScan

variable (scan : MatchScan)

/-- One round of the second pass. -/
def consumeFallback (probe : SubtemplateView) (selectorThreshold : Int32)
    (aggregation : MatchAggregation) (entry : Nat × SubtemplateView) : MatchAggregation :=
  let rejected := scan.lateRejected.toList.getD entry.1 false
  let record := scan.records.toList.getD entry.1 .zero
  if rejected || !fallbackGalleryEnabledType24 record.geometryCount 0 1 then aggregation
  else aggregation.consumeFallbackRecordsType24 entry.2 probe selectorThreshold.toInt

/-- What follows the scan. -/
def finish (schedule : List (Nat × SubtemplateView)) (probe : SubtemplateView)
    (selectorThreshold : Int32) : MatchTemplateResult :=
  if scan.aggregation.acceptedCount > 0 then
    { scan.result with
      score := scan.aggregation.score
      selectedIndexKnown := scan.result.selectedIndex.isSome
      studyEligible := scan.studyEligibleAny
      studyEligibilityKnown := true }
  else
    let aggregation :=
      schedule.foldl (scan.consumeFallback probe selectorThreshold) scan.aggregation
    { scan.result with score := aggregation.score }

end MatchScan

/-- The match over a schedule, after the guards. -/
def matchSchedule (schedule : List (Nat × SubtemplateView)) (probe : SubtemplateView)
    (probePackedResolution : UInt32) (selectorThreshold : Int32) : Option MatchTemplateResult :=
  match EarlyExit.run (matchCandidate probe selectorThreshold) schedule
      (.init probePackedResolution) with
  | .stop none => none
  | .stop (some scan) => some (scan.finish schedule probe selectorThreshold)
  | .next scan => some (scan.finish schedule probe selectorThreshold)

/-- `goodix_chicago_match_template_type24`, or none where the source dereferences missing
metric data. The source stores the relation count before the scan, which never reads it. -/
def Enrollment.matchTemplateType24 (self : Enrollment) (probe : SubtemplateView)
    (selectorThreshold : Int32) : Option MatchTemplateResult :=
  if self.count > enrollmentCapacity then some .init
  else
    match probe.metricData with
    | none => none
    | some metricData =>
      (matchSchedule self.schedule probe metricData.packedResolution selectorThreshold).map
        fun result => { result with studyRelationCount := self.count }

end GoodixSpi.Chicago
