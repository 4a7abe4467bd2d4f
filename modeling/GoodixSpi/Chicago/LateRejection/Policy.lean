import GoodixSpi.Chicago.Match.ScoreRecord

/-! The late-rejection policy of template type 24: eight independent reasons to reject a
candidate that scored, and a rule that clears its status. All arithmetic is 32-bit. -/

namespace GoodixSpi.Chicago

structure Type24LateRejectionContext where
  pixelCount : Int32
  overlapAreaX100 : Int32
  probeQuality : Int32
  record : MatchScoreRecord
  agreement : Int32
  studyMetric : Int32
  metricSum : Int32
  geometryCount : Int32
  recordProbeQuality : Int32
  selector : Int32
  candidateAuxiliary : Int32
  maxAuxiliary : Int32
  rejectionCount : Int32

variable (ctx : Type24LateRejectionContext)

def type24OverlapAbove (percent : Int32) : Bool :=
  ctx.pixelCount * percent < ctx.overlapAreaX100

def type24OverlapAtLeast (percent : Int32) : Bool :=
  ctx.pixelCount * percent ≤ ctx.overlapAreaX100

def type24RejectHighAuxiliaryPair : Bool :=
  if ctx.maxAuxiliary ≤ 4 then false
  else if ctx.candidateAuxiliary < 2 then
    let passesLowCandidatePolicy :=
      (!type24OverlapAbove ctx 92 || ctx.agreement > 209 || ctx.studyMetric > 209) &&
      (!type24OverlapAbove ctx 95 || ctx.agreement > 209 || ctx.studyMetric > 219) &&
      (!type24OverlapAtLeast ctx 95 || ctx.agreement > 217 || ctx.studyMetric > 199) &&
      (!type24OverlapAbove ctx 95 ||
        ((ctx.agreement > 211 || ctx.studyMetric > 214) &&
          (!type24OverlapAbove ctx 95 || ctx.agreement > 199 || ctx.studyMetric > 229)))
    !passesLowCandidatePolicy
  else
    let weakRelation :=
      ctx.agreement < 225 && ctx.studyMetric < 210 &&
      (type24OverlapAbove ctx 90 || ctx.geometryCount < 7)
    let passesOverlapPolicy :=
      (!type24OverlapAbove ctx 95 || ctx.candidateAuxiliary < 4) &&
      (!type24OverlapAbove ctx 85 || ctx.candidateAuxiliary < 5) &&
      (!type24OverlapAbove ctx 95 || ctx.agreement > 240 || ctx.studyMetric > 240) &&
      (!type24OverlapAbove ctx 90 || ctx.agreement > 235 || ctx.studyMetric > 230)
    weakRelation || !passesOverlapPolicy

def type24RejectAuxiliaryLevelFour : Bool :=
  let record := ctx.record
  if ctx.maxAuxiliary ≤ 3 then false
  else if ctx.candidateAuxiliary ≥ 2 then
    (type24OverlapAbove ctx 85 && ctx.agreement < 220 && ctx.studyMetric < 211) ||
    (ctx.agreement < 210 && ctx.studyMetric < 206 && ctx.rejectionCount > 5) ||
    (type24OverlapAbove ctx 95 && ctx.agreement < 231 && ctx.studyMetric < 231)
  else if ctx.recordProbeQuality ≥ 90 then false
  else if ctx.geometryCount < 24 then
    let weakSmallGeometry :=
      (type24OverlapAbove ctx 95 && ctx.metricSum < 415) ||
      (type24OverlapAbove ctx 90 && ctx.metricSum < 410) ||
      (type24OverlapAbove ctx 85 && ctx.metricSum < 405) ||
      (type24OverlapAbove ctx 90 &&
        ((ctx.metricSum < 420 && ctx.recordProbeQuality < 50) ||
          (ctx.recordProbeQuality < 70 && record.geometryPercent < 45))) ||
      (ctx.geometryCount < 12 && type24OverlapAbove ctx 80 && ctx.metricSum < 405) ||
      (ctx.geometryCount < 16 && type24OverlapAbove ctx 80 && ctx.metricSum < 375 &&
        ctx.recordProbeQuality < 51 && record.geometryPercent < 31)
    let repeatedRejection :=
      ctx.rejectionCount > 4 &&
      (type24OverlapAbove ctx 98 ||
        (type24OverlapAbove ctx 90 && ctx.studyMetric < 210 && record.geometryPercent < 35))
    weakSmallGeometry || repeatedRejection
  else
    (type24OverlapAbove ctx 95 && ctx.metricSum < 405) ||
    (type24OverlapAbove ctx 99 && ctx.agreement < 208 && ctx.studyMetric < 207 &&
      record.geometryPercent < 49 && ctx.probeQuality < 71 && ctx.selector < 226)

def type24RejectAuxiliaryLevelThree : Bool :=
  let record := ctx.record
  if ctx.maxAuxiliary ≤ 2 then false
  else if ctx.candidateAuxiliary ≥ 2 then
    type24OverlapAbove ctx 92 && ctx.agreement < 220 && ctx.studyMetric < 206
  else if ctx.recordProbeQuality ≥ 90 ∨ ctx.selector ≥ 241 then false
  else if ctx.geometryCount < 25 then
    (type24OverlapAbove ctx 90 && ctx.metricSum < 405) ||
    (type24OverlapAbove ctx 95 &&
      (ctx.metricSum < 412 || (ctx.metricSum < 421 && ctx.recordProbeQuality < 70))) ||
    (type24OverlapAbove ctx 97 && ctx.metricSum < 400 && record.geometryPercent < 36)
  else
    type24OverlapAbove ctx 95 && ctx.metricSum < 400 && record.geometryPercent < 21

def type24RejectAuxiliaryLevelTwo : Bool :=
  let record := ctx.record
  if ctx.maxAuxiliary ≤ 1 then false
  else if ctx.candidateAuxiliary ≥ 2 then
    (type24OverlapAbove ctx 94 && ctx.agreement < 220 && ctx.studyMetric < 216 &&
      record.geometryPercent < 35) ||
    (type24OverlapAbove ctx 85 && ctx.agreement < 215 && ctx.studyMetric < 211 &&
      record.geometryPercent < 35 && ctx.geometryCount < 15)
  else if ctx.recordProbeQuality ≥ 90 ∨ ctx.selector ≥ 240 then false
  else if ctx.geometryCount < 24 then
    (type24OverlapAbove ctx 90 &&
      ((ctx.metricSum < 406 && (record.geometryPercent < 36 || ctx.geometryCount < 18)) ||
        (ctx.studyMetric < 210 && record.geometryPercent < 36 &&
          ctx.recordProbeQuality < 60))) ||
    (type24OverlapAbove ctx 95 && ctx.geometryCount < 23 && record.geometryPercent < 36 &&
      ctx.recordProbeQuality < 60) ||
    (type24OverlapAbove ctx 98 && ctx.geometryCount < 23 && record.geometryPercent < 41 &&
      ctx.recordProbeQuality < 65)
  else
    (type24OverlapAbove ctx 95 && ctx.agreement < 211 && ctx.studyMetric < 211 &&
      record.geometryPercent < 40 && ctx.probeQuality < 61) ||
    (type24OverlapAbove ctx 98 && ctx.agreement < 211 && record.geometryPercent < 41 &&
      ctx.probeQuality < 73 && ctx.selector < 230)

def type24PassesLowGeometryOverlapGate : Bool :=
  let record := ctx.record
  let pass98 :=
    !type24OverlapAbove ctx 98 ||
    ((ctx.agreement > 229 || ctx.studyMetric > 215 || record.geometryPercent > 25 ||
        ctx.probeQuality > 70 || ctx.selector > 238) &&
      (!type24OverlapAbove ctx 98 || ctx.agreement > 234 || ctx.studyMetric > 215 ||
        record.geometryPercent > 30 || ctx.probeQuality > 31 || ctx.selector > 238))
  let pass97 :=
    !type24OverlapAbove ctx 97 ||
    ((ctx.agreement > 224 || ctx.studyMetric > 210 || record.geometryPercent > 25 ||
        ctx.probeQuality > 70 || ctx.selector > 234) &&
      (!type24OverlapAbove ctx 97 ||
        ((ctx.agreement > 231 || record.geometryPercent > 38 || ctx.probeQuality > 32 ||
            ctx.selector > 237) &&
          (!type24OverlapAbove ctx 97 || ctx.agreement > 227 || ctx.studyMetric > 210 ||
            record.geometryPercent > 28 || ctx.probeQuality > 40 || ctx.selector > 234))))
  let pass96 :=
    !type24OverlapAbove ctx 96 || ctx.agreement > 224 || ctx.studyMetric > 210 ||
    record.geometryPercent > 26 || ctx.probeQuality > 68 || ctx.selector > 234
  let pass95 :=
    !type24OverlapAbove ctx 95 || ctx.agreement > 220 || ctx.studyMetric > 205 ||
    record.geometryPercent > 31 || ctx.probeQuality > 32 || ctx.selector > 234
  let pass94 :=
    !type24OverlapAbove ctx 94 || ctx.agreement > 220 || ctx.studyMetric > 195 ||
    record.geometryPercent > 31 || ctx.probeQuality > 52 || ctx.selector > 234
  pass98 && pass97 && pass96 && pass95 && pass94

def type24RejectLowGeometry : Bool :=
  let record := ctx.record
  if ctx.geometryCount ≥ 25 ∨ ctx.recordProbeQuality ≥ 70 ∨ ctx.selector ≥ 242 then false
  else
    let initialRejection :=
      (type24OverlapAbove ctx 95 && ctx.agreement < 210 && ctx.studyMetric < 210 &&
        ctx.probeQuality < 81) ||
      (type24OverlapAbove ctx 90 &&
        ((ctx.agreement < 205 && ctx.studyMetric < 205) ||
          (ctx.geometryCount < 12 && ctx.agreement < 210 && ctx.studyMetric < 210 &&
            record.geometryPercent < 26))) ||
      (type24OverlapAbove ctx 95 && ctx.agreement < 220 && ctx.studyMetric < 210 &&
        ctx.probeQuality < 16)
    let immediateRejection :=
      type24OverlapAbove ctx 91 && ctx.agreement < 210 && ctx.studyMetric < 199 &&
      record.geometryPercent < 22 && ctx.probeQuality < 51 && ctx.selector < 230 &&
      ctx.geometryCount < 16
    let entersHistoryException :=
      !type24OverlapAbove ctx 87 || ctx.agreement > 215 || ctx.studyMetric > 185 ||
      record.geometryPercent > 21 || ctx.probeQuality > 42 || ctx.geometryCount > 15
    let weakHighOverlap :=
      type24OverlapAbove ctx 85 &&
      ((ctx.agreement < 200 && ctx.studyMetric < 195 && ctx.probeQuality < 71) ||
        (ctx.agreement < 210 && ctx.studyMetric < 205 && ctx.geometryCount < 14))
    let allowCandidate :=
      type24PassesLowGeometryOverlapGate ctx && !immediateRejection &&
      entersHistoryException && !weakHighOverlap && ctx.rejectionCount < 7
    initialRejection || !allowCandidate

def type24RejectOverlapBands : Bool :=
  let record := ctx.record
  let rejectAbove99 :=
    type24OverlapAbove ctx 99 &&
    ((ctx.agreement < 210 && record.geometryPercent < 37 && ctx.probeQuality < 66 &&
        ctx.selector < 231) ||
      (ctx.agreement < 210 && ctx.studyMetric == 0 && record.geometryPercent < 49 &&
        ctx.probeQuality < 71 && ctx.selector < 231) ||
      (ctx.agreement < 217 && ctx.studyMetric < 179 && record.geometryPercent < 19 &&
        ctx.probeQuality < 81 && ctx.selector < 246))
  let rejectAbove98 :=
    type24OverlapAbove ctx 98 &&
    ((ctx.agreement < 220 && ctx.studyMetric < 208 && record.geometryPercent < 31 &&
        ctx.probeQuality < 81 && ctx.selector < 233) ||
      (ctx.agreement < 225 && ctx.studyMetric < 216 && record.geometryPercent < 36 &&
        ctx.probeQuality < 68 && ctx.selector < 235))
  let rejectAbove97 :=
    type24OverlapAbove ctx 97 &&
    ((ctx.agreement < 220 && ctx.studyMetric < 206 && record.geometryPercent < 21 &&
        ctx.probeQuality < 71 && ctx.selector < 233) ||
      (ctx.agreement < 215 && record.geometryPercent < 41 && ctx.probeQuality < 71 &&
        ctx.selector < 233) ||
      (ctx.agreement < 224 && ctx.studyMetric < 206 && record.geometryPercent < 21 &&
        ctx.probeQuality < 81 && ctx.selector < 233 && ctx.maxAuxiliary == 1) ||
      (ctx.agreement < 210 && ctx.studyMetric == 0 && record.geometryPercent < 48 &&
        ctx.probeQuality < 71 && ctx.selector < 233 && ctx.maxAuxiliary == 1))
  let rejectAbove95 :=
    type24OverlapAbove ctx 95 && ctx.agreement < 221 && ctx.studyMetric < 205 &&
    record.geometryPercent < 23 && ctx.probeQuality < 79 && ctx.selector < 233
  let rejectAtLeast95 :=
    type24OverlapAtLeast ctx 95 && ctx.agreement < 219 && ctx.studyMetric < 183 &&
    record.geometryPercent < 14 && ctx.probeQuality < 55 && ctx.selector < 246
  let rejectAbove94 :=
    type24OverlapAbove ctx 94 && ctx.agreement < 218 && ctx.studyMetric < 207 &&
    record.geometryPercent < 21 && ctx.probeQuality < 81 && ctx.selector < 251
  let rejectAbove93 :=
    type24OverlapAbove ctx 93 && ctx.metricSum < 376 && record.geometryPercent < 21 &&
    ctx.probeQuality < 86 && ctx.selector < 231
  let rejectAbove91 :=
    type24OverlapAbove ctx 91 &&
    ((ctx.agreement < 213 && ctx.studyMetric < 205 && record.geometryPercent < 23 &&
        ctx.probeQuality < 80 && ctx.selector < 229) ||
      (ctx.agreement < 216 && ctx.studyMetric < 191 && record.geometryPercent < 18 &&
        ctx.probeQuality < 51 && ctx.selector < 249))
  rejectAbove99 || rejectAbove98 || rejectAbove97 || rejectAbove95 || rejectAtLeast95 ||
    rejectAbove94 || rejectAbove93 || rejectAbove91

def type24RejectCandidateAuxiliary : Bool :=
  if ctx.candidateAuxiliary ≤ 1 then false
  else
    (ctx.candidateAuxiliary > 2 &&
      ((ctx.agreement < 215 && ctx.studyMetric < 215 && ctx.geometryCount < 11 &&
          type24OverlapAbove ctx 80) ||
        (ctx.agreement < 220 && ctx.studyMetric < 220 && type24OverlapAbove ctx 90))) ||
    (ctx.agreement < 215 && ctx.studyMetric < 215 && ctx.geometryCount < 16 &&
      type24OverlapAbove ctx 95)

def type24RejectBaselineWeakness : Bool :=
  let record := ctx.record
  (type24OverlapAbove ctx 90 && ctx.agreement < 205 && ctx.studyMetric < 211 &&
    record.geometryPercent < 45 && ctx.probeQuality < 51 && ctx.selector < 240) ||
  (type24OverlapAbove ctx 95 && ctx.agreement < 216 && ctx.studyMetric < 216 &&
    record.geometryPercent < 35 && ctx.selector < 240)

def type24ShouldClearStatus : Bool :=
  let record := ctx.record
  (type24OverlapAbove ctx 92 && ctx.geometryCount < 18 && record.geometryPercent < 26 &&
    ctx.agreement < 218) ||
  (type24OverlapAbove ctx 93 && ctx.geometryCount < 10 && record.geometryPercent < 13 &&
    ctx.agreement < 220)

def type24Rejects : Bool :=
  type24RejectHighAuxiliaryPair ctx || type24RejectAuxiliaryLevelFour ctx ||
    type24RejectAuxiliaryLevelThree ctx || type24RejectAuxiliaryLevelTwo ctx ||
    type24RejectLowGeometry ctx || type24RejectOverlapBands ctx ||
    type24RejectCandidateAuxiliary ctx || type24RejectBaselineWeakness ctx

/-- The returned verdict with the two values behind the pointer arguments. -/
structure LateRejection where
  rejected : Bool
  rejectionCount : Int32
  statusFlag : Int32
deriving DecidableEq

/-- What the policy builds on entry. The sign of a width or height is lost when the area
functions read it as unsigned. -/
def type24LateRejectionContext (width height probeQuality : Int32) (record : MatchScoreRecord)
    (transform : Transform) (currentAuxiliary candidateAuxiliary combinedAuxiliary
      rejectionCount : Int32) : Type24LateRejectionContext :=
  let forwardOverlapArea :=
    transformOverlapAreaType24 width.toUInt32 height.toUInt32 transform
  let inverse := invertTransformQ8Type24 transform
  let inverseOverlapArea :=
    transformOverlapAreaType24 width.toUInt32 height.toUInt32 inverse
  { pixelCount := width * height
    overlapAreaX100 := max forwardOverlapArea inverseOverlapArea * 100
    probeQuality := probeQuality
    record := record
    agreement := record.agreement
    studyMetric := record.studyMetric20
    metricSum := record.agreement + record.studyMetric20
    geometryCount := record.geometryCount
    recordProbeQuality := record.probeQuality
    selector := record.selector
    candidateAuxiliary := candidateAuxiliary
    maxAuxiliary := max combinedAuxiliary currentAuxiliary
    rejectionCount := rejectionCount }

def matchLateRejectionPolicyType24 (width height probeQuality : Int32)
    (record : MatchScoreRecord) (transform : Transform) (currentAuxiliary candidateAuxiliary
      combinedAuxiliary rejectionCount statusFlag : Int32) : LateRejection :=
  let ctx := type24LateRejectionContext width height probeQuality record transform
    currentAuxiliary candidateAuxiliary combinedAuxiliary rejectionCount
  let rejected := type24Rejects ctx
  { rejected := rejected
    rejectionCount := if rejected then rejectionCount + 1 else rejectionCount
    statusFlag := if type24ShouldClearStatus ctx then 0 else statusFlag }

/-- `goodix_chicago_match_late_rejection_type24`; a width or height outside its guard
leaves everything as it is. -/
def matchLateRejectionType24 (width height : UInt32) (probeQuality : Int32)
    (record : MatchScoreRecord) (transform : Transform) (currentAuxiliary candidateAuxiliary
      combinedAuxiliary rejectionCount statusFlag : Int32) : LateRejection :=
  if (0 < width ∧ width ≤ 0x7fffffff) ∧ (0 < height ∧ height ≤ 0x7fffffff) then
    matchLateRejectionPolicyType24 width.toInt32 height.toInt32 probeQuality record transform
      currentAuxiliary candidateAuxiliary combinedAuxiliary rejectionCount statusFlag
  else ⟨false, rejectionCount, statusFlag⟩

end GoodixSpi.Chicago
