import GoodixSpi.Chicago.Enrollment.Metrics

/-! The relation between two samples, and the arithmetic of group transforms. -/

namespace GoodixSpi.Chicago

open CArithmetic

def evidenceIsAccepted (inlierCount : Nat) (metricA metricB : Int) : Bool :=
  inlierCount ≥ 11 || (inlierCount ≥ 6 && metricA ≥ 216) ||
    (inlierCount ≥ 7 && metricA ≥ 209 && metricB ≥ 65)

structure BuiltRelation where
  relation : Relation
  metricA : Int
  metricB : Int
  evidenceAccepted : Bool

/-- The transform maps the new records onto the old ones. -/
def buildRelation (oldRecords : List FeatureRecord) (oldMetricData : MetricData)
    (newRecords : List FeatureRecord) (newMetricData : MetricData) : BuiltRelation :=
  let pairs := (findCorrespondences oldRecords newRecords).filterMap fun pair =>
    match newRecords[pair.newIndex]?, oldRecords[pair.oldIndex]? with
    | some new, some old => some (new.point, old.point)
    | _, _ => none
  let estimate := estimateTransform pairs
  let metrics := calculateRelationMetrics newMetricData oldMetricData estimate.values
  { relation := ⟨Int32.ofNat estimate.inlierCount, estimate.values⟩
    metricA := metrics.1
    metricB := metrics.2
    evidenceAccepted := evidenceIsAccepted estimate.inlierCount metrics.1 metrics.2 }

/-! ### Group transforms -/

/-- One digit of the square root; `bit` runs through the powers of four. -/
def squareRootStep (state : Nat × Nat) (bit : Nat) : Nat × Nat :=
  if state.1 ≥ state.2 + bit then (state.1 - (state.2 + bit), state.2 / 2 + bit)
  else (state.1, state.2 / 2)

/-- Bits above the value leave the state as it is, so the first loop of the source,
which only skips them, has no counterpart here. -/
def enrollmentIntegerSquareRoot (value : Nat) : Nat :=
  ((((List.range 16).map fun k => 4 ^ (15 - k)).filter (· ≤ value)).foldl squareRootStep
    (value, 0)).2

def normalizeGroupTransform (input : Transform) : Transform :=
  let cosine := shiftRight ((input.get 0).toInt + (input.get 4).toInt) 1
  let sine := shiftRight ((input.get 3).toInt - (input.get 1).toInt) 1
  let magnitude := enrollmentIntegerSquareRoot
    ((cosine * cosine + sine * sine) % 2 ^ 32).toNat
  if magnitude = 0 then #v[0x100, 0, input.get 2, 0, 0x100, input.get 5]
  else
    let a := Int32.ofInt (quotient (cosine * 0x100 + (magnitude / 2 : Nat)) magnitude)
    let b := Int32.ofInt (quotient ((magnitude / 2 : Nat) - sine * 0x100) magnitude)
    #v[a, b, input.get 2, -b, a, input.get 5]

def invertGroupTransform (input : Transform) : Transform :=
  let a := (input.get 0).toInt
  let b := (input.get 1).toInt
  let x := (input.get 2).toInt
  let c := (input.get 3).toInt
  let d := (input.get 4).toInt
  let y := (input.get 5).toInt
  let determinant := transformDeterminant input
  if determinant = 0 then input
  else transformOf (quotient (d * 0x10000) determinant) (quotient (-b * 0x10000) determinant)
    (quotient ((y * b - d * x) * 0x100) determinant) (quotient (-c * 0x10000) determinant)
    (quotient (a * 0x10000) determinant) (quotient ((c * x - y * a) * 0x100) determinant)

def composeGroupTransform (first second : Transform) : Transform :=
  let term := fun (p q r s : Int32) => shiftRight (p.toInt * q.toInt + r.toInt * s.toInt) 8
  normalizeGroupTransform <| transformOf
    (term (first.get 0) (second.get 0) (first.get 1) (second.get 3))
    (term (first.get 0) (second.get 1) (first.get 1) (second.get 4))
    (wrap32 (term (first.get 0) (second.get 2) (first.get 1) (second.get 5)) + (first.get 2).toInt)
    (term (first.get 3) (second.get 0) (first.get 4) (second.get 3))
    (term (first.get 3) (second.get 1) (first.get 4) (second.get 4))
    (wrap32 (term (first.get 3) (second.get 2) (first.get 4) (second.get 5)) + (first.get 5).toInt)

/-- Pixels of a rectangle that a transform keeps inside it. -/
def affineRectangleOverlap (transform : Transform) (width height : Nat)
    (halfTranslation : Bool) : Nat :=
  let translation := fun t : Int32 => if halfTranslation then shiftRight t.toInt 1 else t.toInt
  ((List.range height).map fun y : Nat => (List.range width).countP fun x : Nat =>
    let mappedX := (transform.get 0).toInt * x + (transform.get 1).toInt * y +
      translation (transform.get 2)
    let mappedY := (transform.get 3).toInt * x + (transform.get 4).toInt * y +
      translation (transform.get 5)
    0 ≤ mappedX && mappedX ≤ ((width : Int) - 1) * 0x100 && 0 ≤ mappedY &&
      mappedY ≤ ((height : Int) - 1) * 0x100).sum

namespace Enrollment

variable (self : Enrollment)

/-- The transform from `source` to `target` that the table knows, else the identity. -/
def groupTransformBetween (source target : Nat) : Transform :=
  if source = target then identityGroupTransform
  else
    match self.relationOf source target with
    | none => identityGroupTransform
    | some relation =>
      if source > target then relation.transform else invertGroupTransform relation.transform

end Enrollment

end GoodixSpi.Chicago
