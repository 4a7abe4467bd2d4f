import GoodixSpi.Chicago.Match.ScoreRecord

/-! The decisions the scheduler takes on one score record: the prefilter, the evidence of
a match, the study admission that may take it back, and the gate that admits it. -/

namespace GoodixSpi.Chicago

open CArithmetic

/-! ### The evidence -/

structure SchedulerEvidence where
  confidence : Int32
  status : Int32
  special : Int32
deriving DecidableEq

def agreementByPrimary : List Int32 := [0x0fffffff, 206, 201, 196, 185, 185, 185, 185]

def agreementBySecondary : List Int32 :=
  [0x0fffffff, 0x0fffffff, 0x0fffffff, 207, 205, 203, 196, 187]

def confidenceBySecondary : List Int32 :=
  [0x0fffffff, 0x0fffffff, 209, 208, 208, 207, 207, 207]

/-- `table[CLAMP (count - 7, 0, 7)]`. -/
def evidenceLimit (table : List Int32) (count : Int32) : Int32 :=
  table.getD (max 0 (min 7 (count - 7))).toInt.toNat 0

/-- The two geometry counts and the two agreements, weighed. -/
structure WeighedEvidence where
  primary : Int32
  secondary : Int32
  agreement : Int32
  adjustedAgreement : Int32

def weighEvidence (record : MatchScoreRecord) (penalizeLowCoverage : Bool) : WeighedEvidence :=
  let lowered := if record.geometryCount ≤ 4 then record.agreement - 4 else record.agreement
  let bonus := if record.matchedPercent > 60 ∧ record.geometryCount > 4 then
      1 + (record.matchedPercent - 60) / 5
    else 0
  let penalty := if penalizeLowCoverage = true ∧ record.normalizedCoverage < 128 then
      1 + (128 - record.normalizedCoverage) / 10
    else 0
  let secondary := record.secondaryGeometryCount + bonus - penalty
  let flagPenalty := if secondary ≤ 10 then 4 * (record.penaltyFlagA + record.penaltyFlagB) else 0
  { primary := record.geometryCount + bonus - penalty
    secondary := secondary
    agreement := lowered - flagPenalty
    adjustedAgreement := record.agreement - flagPenalty }

namespace WeighedEvidence

variable (evidence : WeighedEvidence)

def primaryLimit : Int32 := evidenceLimit agreementByPrimary evidence.primary

def secondaryLimit : Int32 := evidenceLimit agreementBySecondary evidence.secondary

def status : Bool :=
  evidence.adjustedAgreement > evidence.primaryLimit ||
    evidence.adjustedAgreement > evidence.secondaryLimit || evidence.primary ≥ 14

def confident (record : MatchScoreRecord) : Bool :=
  if evidence.primary ≤ 4 ∧ record.selector < 235 ∧ evidence.agreement < 217 then false
  else
    evidence.agreement > evidenceLimit confidenceBySecondary evidence.secondary ||
    (evidence.agreement ≥ 195 && evidence.primary ≥ 16) ||
    (evidence.agreement ≥ 190 && evidence.primary ≥ 18) ||
    (evidence.secondary > 18 && evidence.primary > 10 && evidence.agreement > 196) ||
    (record.matchedPercent > 60 && evidence.adjustedAgreement ≥ 198 && evidence.primary > 12) ||
    (evidence.secondary > 16 && evidence.primary > 10 && evidence.adjustedAgreement > 200)

def special : Bool :=
  !((evidence.primary > 20 && evidence.adjustedAgreement ≥ 185) ||
    evidence.adjustedAgreement ≥ 205 ||
    evidence.adjustedAgreement ≥ evidence.primaryLimit + 10 ||
    evidence.adjustedAgreement ≥ evidence.secondaryLimit + 10)

end WeighedEvidence

/-- The names of the source's index variables are crossed; the tables are read as it reads
them. -/
def schedulerEvidenceType24 (record : MatchScoreRecord) (qualityA qualityB : Int32)
    (penalizeLowCoverage : Bool) : SchedulerEvidence :=
  let evidence := weighEvidence record penalizeLowCoverage
  let confident := evidence.status && qualityA > 15 && qualityB ≥ 65 && evidence.confident record
  let strong := confident && record.geometryCount > 7 && record.secondaryGeometryCount > 11 &&
    record.geometryPercent > 35
  { confidence := if strong then 2 else if confident then 1 else 0
    status := if evidence.status then 1 else 0
    special := if evidence.special then 1 else 0 }

/-- `goodix_chicago_match_accept_type24`. -/
def acceptType24 (selector agreement helperStatus selectorThreshold : Int32) : Bool :=
  helperStatus == 1 || (selector > selectorThreshold && agreement > 195)

/-! ### Resolution evidence -/

structure ResolutionEvidence where
  primary : Int32
  secondary : Int32
deriving DecidableEq

def decodeGalleryResolutionEvidence (packedResolution : UInt32) : ResolutionEvidence where
  primary := [0, 2, 2, 3].getD (packedResolution &&& 3).toNat 0
  secondary := [0, 1, 2, 4, 5, 5, 0, 0].getD ((packedResolution >>> 8) &&& 7).toNat 0

structure SchedulerAuxiliary where
  auxiliaryCount : Int32
  raised : Bool
deriving DecidableEq

def SchedulerAuxiliary.init (probePackedResolution : UInt32) : SchedulerAuxiliary :=
  ⟨(decodeGalleryResolutionEvidence probePackedResolution).secondary, false⟩

/-- The combined count of this gallery sub-template, and the state for the next one. -/
def SchedulerAuxiliary.consume (state : SchedulerAuxiliary) (galleryPackedResolution : UInt32)
    (priorRejectionCount : Int32) : Int32 × SchedulerAuxiliary :=
  let evidence := decodeGalleryResolutionEvidence galleryPackedResolution
  let combined := min (state.auxiliaryCount + evidence.secondary) 5
  let count := if evidence.secondary > 3 then max state.auxiliaryCount evidence.secondary
    else state.auxiliaryCount
  if priorRejectionCount > 5 ∧ count < 5 ∧ state.raised = false then (combined, ⟨count + 1, true⟩)
  else (combined, ⟨count, state.raised⟩)

/-! ### The prefilter -/

/-- `goodix_chicago_match_candidate_prefilter_type24`, which reads the record as words. -/
def candidatePrefilterType24 (record : MatchScoreRecord) (auxiliaryCount candidateMetric : Int32) :
    Bool :=
  let value := record.words
  let metric24 := value.get 9
  let weak := auxiliaryCount > 1 &&
    ((metric24 < 60 && value.get 1 < 9 && value.get 5 < 214 && value.get 8 < 213) ||
      (metric24 < 98 && value.get 1 < 15 && value.get 8 < 202 && value.get 5 < 205 &&
        value.get 11 < 30) ||
      (metric24 < 109 && value.get 1 < 15 && value.get 8 < 203 && value.get 5 < 193 &&
        value.get 11 < 27) ||
      (metric24 < 105 && value.get 1 < 17 && auxiliaryCount > 2 && value.get 5 < 200 &&
        value.get 11 < 37) ||
      (metric24 < 93 && value.get 1 < 10 && auxiliaryCount > 2 && value.get 5 < 215 &&
        value.get 11 < 24) ||
      (candidateMetric > 0 && metric24 < 95 && value.get 1 < 10 && value.get 8 < 210 &&
        value.get 5 < 205 && value.get 11 < 31))
  if candidateMetric < 4 ∨
      (value.get 5 > 204 ∨ value.get 0 > 15) ∧ (value.get 5 > 209 ∨ value.get 0 > 6) then
    if candidateMetric > 2 then
      -- the two jumps to the end leave out the second test
      if (value.get 5 > 189 ∨ value.get 11 > 29 ∨ value.get 4 > 209) ∧
          (auxiliaryCount < 2 ∨ value.get 5 > 199 ∨ value.get 11 > 34 ∨ value.get 4 > 224) then false
      else true
    else weak
  else true

/-! ### The study admission -/

structure StudyAdmissionInput where
  auxiliaryCount : Int32
  candidateMetric : Int32
  probeQuality : Int32
  probeAuxiliary : Int32
  aggregateMetric : Int32

structure StudyAdmission where
  status : Int32
  studyEligible : Int32
deriving DecidableEq

/-- `goodix_chicago_match_study_aggregate_q8_type24`; its guards return zero. -/
def studyAggregateQ8Type24 (countZero countMixed countOne : Int) : Int :=
  if 0 ≤ countZero ∧ 0 ≤ countMixed ∧ 0 ≤ countOne ∧
      countZero + countMixed + countOne ≤ 40 * 32 then
    quotient ((countZero + countOne) * 0x100) (countZero + countMixed + countOne + 1)
  else 0

section StudyAdmission

variable (record : MatchScoreRecord) (input : StudyAdmissionInput)

/-- `(record->geometry_percent * record->normalized_coverage) >> 8`. -/
def scaledCoverage : Int32 := (record.geometryPercent * record.normalizedCoverage) >>> 8

/-- Neither of these two takes the status back. -/
def weakForStudy : Bool :=
  (input.auxiliaryCount ≥ 1 && record.geometryCount < 10 && record.normalizedCoverage < 180 &&
    record.geometryPercent < 20 && record.agreement ≤ 210 && record.studyMetric20 < 195 &&
    record.matchedPercent < 40) ||
  (input.probeAuxiliary ≥ 1 && record.geometryCount < 10 && record.geometryPercent < 40 &&
    record.normalizedCoverage < 80 && record.agreement ≤ 218 && record.studyMetric20 < 205 &&
    record.matchedPercent < 70)

def weakForAuxiliary : Bool :=
  input.auxiliaryCount ≥ 5 && input.candidateMetric ≥ 1 && record.matchedPercent < 47 &&
    input.probeQuality < 58 && scaledCoverage record < 11

def inspectWeakEvidence : Bool :=
  (input.auxiliaryCount ≥ 3 && input.candidateMetric ≥ 4 && input.probeQuality < 80 &&
    record.matchedPercent < 70) ||
  (input.auxiliaryCount ≥ 2 && input.candidateMetric ≥ 2 && input.probeQuality < 55 &&
    scaledCoverage record < 20)

/-- The three branches of the inspection, which all do the same. -/
def weakEvidence : Bool :=
  (record.geometryCount ≤ 18 && record.agreement ≤ 200 && record.studyMetric20 < 200 &&
    scaledCoverage record < 15) ||
  (record.geometryCount ≤ 12 &&
    ((input.auxiliaryCount ≥ 4 && record.agreement ≤ 200 && record.studyMetric20 < 200) ||
      (record.agreement ≤ 215 && record.studyMetric20 < 210 && scaledCoverage record < 18))) ||
  (record.geometryCount ≤ 10 &&
    ((record.agreement ≤ 210 && record.studyMetric20 < 215 && scaledCoverage record < 15) ||
      (record.agreement ≤ 200 && record.studyMetric20 < 200)))

/-- The four tests that end the admission without touching the status. -/
def studyEnds : Bool :=
  (input.auxiliaryCount ≥ 4 && input.candidateMetric == 1 && input.probeQuality < 50 &&
    input.aggregateMetric ≥ 220) ||
  (input.auxiliaryCount ≥ 3 && input.candidateMetric ≥ 2 && input.probeQuality < 50 &&
    record.geometryCount ≤ 7 && record.agreement ≤ 202 && record.studyMetric20 < 200 &&
    scaledCoverage record < 17 && record.normalizedCoverage < 170) ||
  (input.auxiliaryCount ≥ 2 && input.candidateMetric ≥ 3 && input.aggregateMetric ≥ 150 &&
    record.agreement ≤ 200 && record.studyMetric20 < 200 && scaledCoverage record < 17) ||
  (input.auxiliaryCount ≥ 2 && input.probeQuality < 35 && record.agreement < 208 &&
    record.studyMetric20 < 197 && scaledCoverage record < 20)

def weakSource : Bool :=
  (input.auxiliaryCount ≥ 5 && record.geometryCount ≤ 5) ||
  (input.auxiliaryCount ≥ 4 && record.geometryCount ≤ 7 && record.geometryPercent < 25) ||
  (input.auxiliaryCount ≥ 2 &&
    ((record.geometryCount ≤ 7 && record.studyMetric20 < 215 && record.studyMetric1c < 165) ||
      (record.geometryCount ≤ 10 && record.studyMetric20 < 210 && record.studyMetric1c < 155) ||
      (record.geometryCount ≤ 11 && record.studyMetric20 < 192 && record.studyMetric1c < 90)))

def clearsStatus : Bool :=
  (record.geometryCount < 6 && record.studyMetric20 < 210 && record.studyMetric1c < 135) ||
  (record.geometryCount ≤ 11 && record.studyMetric20 < 192 && record.studyMetric1c < 90)

/-- The first filter: study only. -/
def filterStudy (admission : StudyAdmission) : StudyAdmission :=
  if weakForStudy record input then { admission with studyEligible := 0 } else admission

/-- The filters on a candidate with status 1. -/
def filterEvidence (admission : StudyAdmission) : StudyAdmission :=
  let supported := if admission.status = 1 ∧ weakForAuxiliary record input = true then ⟨0, 0⟩
    else admission
  if supported.status = 1 ∧ inspectWeakEvidence record input = true ∧
      weakEvidence record input = true then ⟨0, 0⟩
  else supported

def filterSource (admission : StudyAdmission) : StudyAdmission :=
  if studyEnds record input then { admission with studyEligible := 0 }
  else if weakSource record input then ⟨if clearsStatus record then 0 else admission.status, 0⟩
  else admission

/-- `goodix_chicago_match_filter_study_admission_type24`. -/
def filterStudyAdmissionType24 (admission : StudyAdmission) : StudyAdmission :=
  let studied := filterStudy record input admission
  if (input.auxiliaryCount < 2 ∧ input.candidateMetric = 0) ∨ studied.status = 0 then studied
  else filterSource record input (filterEvidence record input studied)

end StudyAdmission

end GoodixSpi.Chicago
