import GoodixSpi.Chicago.Enrollment.State
import GoodixSpi.Lib.CArithmetic

/-! The evidence the matcher gathers about one candidate sub-template, and how much of
the sensor the candidate's transform keeps inside the sensor. -/

namespace GoodixSpi.Chicago

open CArithmetic

structure MatchScoreRecord where
  geometryCount : Int32
  secondaryGeometryCount : Int32
  reserved08 : Vector Int32 2
  selector : Int32
  agreement : Int32
  studyMetric18 : Int32
  studyMetric1c : Int32
  studyMetric20 : Int32
  normalizedCoverage : Int32
  matchedPercent : Int32
  geometryPercent : Int32
  penaltyFlagA : Int32
  penaltyFlagB : Int32
  reserved38 : Vector Int32 7
  probeQuality : Int32
  probeCoverage : Int32
  galleryQuality : Int32
  galleryCoverage : Int32
  auxiliaryScore : Int32
deriving DecidableEq

/-- The 0x68 bytes of a record, seen as 26 words. -/
instance (priority := 2000) MatchScoreRecord.neZero : NeZero 26 := ⟨by decide⟩

def MatchScoreRecord.words (record : MatchScoreRecord) : Vector Int32 26 :=
  #v[record.geometryCount, record.secondaryGeometryCount, record.reserved08[0],
    record.reserved08[1], record.selector, record.agreement, record.studyMetric18,
    record.studyMetric1c, record.studyMetric20, record.normalizedCoverage,
    record.matchedPercent, record.geometryPercent, record.penaltyFlagA, record.penaltyFlagB,
    record.reserved38[0], record.reserved38[1], record.reserved38[2], record.reserved38[3],
    record.reserved38[4], record.reserved38[5], record.reserved38[6], record.probeQuality,
    record.probeCoverage, record.galleryQuality, record.galleryCoverage,
    record.auxiliaryScore]

/-- `goodix_chicago_match_invert_transform_q8_type24`: the inverse keeps the eight
fractional bits, and a singular transform is its own inverse. -/
def invertTransformQ8Type24 (transform : Transform) : Transform :=
  let a := (transform.get 0).toInt
  let b := (transform.get 1).toInt
  let tx := (transform.get 2).toInt
  let c := (transform.get 3).toInt
  let d := (transform.get 4).toInt
  let ty := (transform.get 5).toInt
  let determinant := a * d - b * c
  if determinant = 0 then transform
  else
    #v[Int32.ofInt (quotient (d * 0x10000) determinant),
      Int32.ofInt (quotient (-b * 0x10000) determinant),
      Int32.ofInt (quotient ((ty * b - d * tx) * 0x100) determinant),
      Int32.ofInt (quotient (-c * 0x10000) determinant),
      Int32.ofInt (quotient (a * 0x10000) determinant),
      Int32.ofInt (quotient ((c * tx - ty * a) * 0x100) determinant)]

/-- The pixel stays inside the sensor when the transform moves it. -/
def pixelStaysInside (width height : UInt32) (transform : Transform) (x y : Nat) : Bool :=
  let transformedX := (transform.get 0).toInt * x + (transform.get 1).toInt * y +
    (transform.get 2).toInt
  let transformedY := (transform.get 3).toInt * x + (transform.get 4).toInt * y +
    (transform.get 5).toInt
  transformedX ≥ 0 && transformedX ≤ ((width.toNat : Int) - 1) * 0x100 &&
    transformedY ≥ 0 && transformedY ≤ ((height.toNat : Int) - 1) * 0x100

/-- `goodix_chicago_match_transform_overlap_area_type24`. -/
def transformOverlapAreaType24 (width height : UInt32) (transform : Transform) : Int32 :=
  (List.range height.toNat).foldl (fun area y =>
    (List.range width.toNat).foldl (fun area x =>
      if pixelStaysInside width height transform x y then area + 1 else area) area) 0

/-- `goodix_chicago_match_bidirectional_overlap_area_type24`. -/
def bidirectionalOverlapAreaType24 (width height : UInt32) (transform : Transform) : Int32 :=
  max (transformOverlapAreaType24 width height transform)
    (transformOverlapAreaType24 width height (invertTransformQ8Type24 transform))

end GoodixSpi.Chicago
