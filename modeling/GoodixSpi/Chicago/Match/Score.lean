import GoodixSpi.Chicago.Enrollment.Metrics
import GoodixSpi.Chicago.Enrollment.Study
import GoodixSpi.Chicago.Match.Candidates
import GoodixSpi.Chicago.Match.Geometry
import GoodixSpi.Chicago.Match.ScoreRecord

/-! The score record of one gallery sub-template against a probe: how many matched pairs
agree on a transform, how well the metric planes agree under it, and how many probe
records find a gallery record where the transform puts them. -/

namespace GoodixSpi.Chicago

open CArithmetic

/-! ### The feature overlap -/

structure MatchFeatureOverlap where
  eligibleCount : Nat
  matchedCount : Nat
  matchedPercent : Nat
  geometryPercent : Nat
  meanDistance : Nat

/-- Rounding to nearest, half away from zero below zero. -/
def matchTransformCoordinate (value : Int) : Int :=
  if value > 0 then wrap32 (shiftRight (value + 0x80) 8)
  else wrap32 (-shiftRight (0x80 - value) 8)

def transformedPoint (transform : Transform) (point : Point) : Point where
  x := matchTransformCoordinate
    ((transform.get 0).toInt * point.x + (transform.get 1).toInt * point.y +
      (transform.get 2).toInt * 0x100)
  y := matchTransformCoordinate
    ((transform.get 3).toInt * point.x + (transform.get 4).toInt * point.y +
      (transform.get 5).toInt * 0x100)

/-- `record->foreground & 3`. -/
def FeatureRecord.foregroundClass (record : FeatureRecord) : UInt16 := record.foreground &&& 3

/-- The squared distance of a gallery record that could be the transformed probe record. -/
def overlapDistance (probe : FeatureRecord) (position : Point) (gallery : FeatureRecord) :
    Option Int :=
  let dx := position.x - gallery.unsignedX
  let dy := position.y - gallery.unsignedY
  if gallery.foregroundClass ≠ probe.foregroundClass ∨ dx.natAbs > 0x200 ∨ dy.natAbs > 0x200 then
    none
  else some (dx * dx + dy * dy)

def nearestGallery (galleryRecords : List FeatureRecord) (probe : FeatureRecord)
    (position : Point) : Option Nat × Int :=
  galleryRecords.zipIdx.foldl (fun best entry =>
    match overlapDistance probe position entry.1 with
    | none => best
    | some squared => if squared < best.2 then (some entry.2, squared) else best) (none, maxInt32)

/-- None for a probe record that leaves the gallery's sensor; otherwise the descriptor
distance of the nearest gallery record, if there is one. -/
def overlapOutcome (galleryRecords : List FeatureRecord) (galleryWidth galleryHeight : Nat)
    (transform : Transform) (probe : FeatureRecord) : Option (Option Nat) :=
  let position := transformedPoint transform probe.point
  if position.x < 0x600 ∨ position.x ≥ ((galleryWidth : Int) - 7) * 0x100 ∨
      position.y < 0x600 ∨ position.y ≥ ((galleryHeight : Int) - 7) * 0x100 then none
  else
    let best := nearestGallery galleryRecords probe position
    match best.1.bind fun index => galleryRecords[index]? with
    | none => some none
    | some gallery =>
      if best.2 < 0x40000 then
        some (some (min (hammingWords gallery 28 probe 28 2) (hammingWords gallery 28 probe 36 2)))
      else some none

/-- `goodix_chicago_match_feature_overlap_type24`. A quotient by no records is zero. -/
def featureOverlapType24 (galleryRecords probeRecords : List FeatureRecord)
    (galleryWidth galleryHeight : Nat) (transform : Transform) (geometryCount : Nat) :
    MatchFeatureOverlap :=
  let outcomes := probeRecords.filterMap
    (overlapOutcome galleryRecords galleryWidth galleryHeight transform)
  let distances := outcomes.filterMap id
  { eligibleCount := outcomes.length
    matchedCount := distances.length
    matchedPercent := distances.length * 100 / outcomes.length
    geometryPercent := geometryCount * 100 / outcomes.length
    meanDistance := distances.sum / distances.length }

/-! ### The score record -/

/-- `memset (record, 0, sizeof (*record))`. -/
def MatchScoreRecord.zero : MatchScoreRecord where
  geometryCount := 0
  secondaryGeometryCount := 0
  reserved08 := Vector.replicate 2 0
  selector := 0
  agreement := 0
  studyMetric18 := 0
  studyMetric1c := 0
  studyMetric20 := 0
  normalizedCoverage := 0
  matchedPercent := 0
  geometryPercent := 0
  penaltyFlagA := 0
  penaltyFlagB := 0
  reserved38 := Vector.replicate 7 0
  probeQuality := 0
  probeCoverage := 0
  galleryQuality := 0
  galleryCoverage := 0
  auxiliaryScore := 0

namespace MatchScoreRecord

def ofGeometry (gallery probe : SubtemplateView) (geometry : MatchGeometry) : MatchScoreRecord :=
  { zero with
    probeQuality := probe.quality.toInt32
    probeCoverage := probe.coverage.toInt32
    galleryQuality := gallery.quality.toInt32
    galleryCoverage := gallery.coverage.toInt32
    geometryCount := Int32.ofNat geometry.inlierCount
    secondaryGeometryCount := Int32.ofNat geometry.inlierCount }

def withMetrics (record : MatchScoreRecord) (new old : MetricData) (transform : Transform) :
    MatchScoreRecord :=
  let metrics := calculateConfig1Metrics new old transform
  let study := calculateStudyMetrics new old transform
  { record with
    selector := Int32.ofInt metrics.selectorScore
    agreement := Int32.ofInt metrics.metricA
    normalizedCoverage := Int32.ofInt (shiftRight (metrics.metricB * 137) 8)
    studyMetric18 := Int32.ofInt study.metric18
    studyMetric1c := Int32.ofInt study.metric1c
    studyMetric20 := Int32.ofInt study.metric20 }

def withOverlap (record : MatchScoreRecord) (overlap : MatchFeatureOverlap) : MatchScoreRecord :=
  { record with
    matchedPercent := Int32.ofNat overlap.matchedPercent
    geometryPercent := Int32.ofNat overlap.geometryPercent }

end MatchScoreRecord

/-- Fewer than three pairs leave the metrics at zero, fewer than five the overlap. -/
def scoreSubtemplateType24 (gallery probe : SubtemplateView) : MatchScoreRecord × MatchGeometry :=
  let pairs := ordinaryCorrespondences gallery.records gallery.activeCount probe.records
    probe.activeCount
  let geometry := geometryConsensusRecords gallery.records probe.records pairs 3
  let counted := MatchScoreRecord.ofGeometry gallery probe geometry
  if geometry.inlierCount < 3 ∨ gallery.hasMetricData = false ∨ probe.hasMetricData = false then
    (counted, geometry)
  else
    match probe.metricData, gallery.metricData with
    | some new, some old =>
      let measured := counted.withMetrics new old geometry.transform
      if geometry.inlierCount ≤ 4 then (measured, geometry)
      else
        (measured.withOverlap (featureOverlapType24 gallery.records probe.records 80 64
          geometry.transform geometry.inlierCount), geometry)
    | _, _ => (counted, geometry)

end GoodixSpi.Chicago
