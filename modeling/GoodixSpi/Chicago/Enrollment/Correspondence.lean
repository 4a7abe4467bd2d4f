import GoodixSpi.Lib.CArithmetic
import GoodixSpi.Chicago.Feature.SpatialSelection
import GoodixSpi.Chicago.Enrollment.State

/-! Correspondences between two record lists and the affine transform they agree on. -/

namespace GoodixSpi.Chicago

open CArithmetic

def correspondenceLimit : Nat := 31

/-- The Hamming distance of `words` descriptor words from two offsets. -/
def hammingWords (a : FeatureRecord) (aOffset : Nat) (b : FeatureRecord) (bOffset words : Nat) :
    Nat :=
  ((List.range words).map fun word =>
    popCount (a.descriptorWord (aOffset + 4 * word) ^^^ b.descriptorWord (bOffset + 4 * word))).sum

def descriptorDistance (a b : FeatureRecord) : Nat := hammingWords a 4 b 4 6

/-- The two closest new records of one old record. -/
structure ClosestTwo where
  bestDistance : Nat
  secondDistance : Nat
  bestIndex : Option Nat

def ClosestTwo.init : ClosestTwo := ⟨192, 192, none⟩

def ClosestTwo.update (closest : ClosestTwo) (distance index : Nat) : ClosestTwo :=
  if distance < closest.bestDistance then ⟨distance, closest.bestDistance, some index⟩
  else if distance < closest.secondDistance then { closest with secondDistance := distance }
  else closest

/-- The strict best/second ratio of 0.95. -/
def ClosestTwo.candidate (closest : ClosestTwo) (oldIndex : Nat) : Option Selected :=
  match closest.bestIndex with
  | none => none
  | some newIndex =>
    if closest.bestDistance * 40 ≥ closest.secondDistance * 38 then none
    else some ⟨oldIndex, newIndex, closest.bestDistance, closest.secondDistance⟩

def closestRecords (old : FeatureRecord) (newRecords : List FeatureRecord) : ClosestTwo :=
  (newRecords.zipIdx.foldl fun closest entry =>
    closest.update (descriptorDistance old entry.1) entry.2) .init

structure Correspondence where
  oldIndex : Nat
  newIndex : Nat
deriving DecidableEq

def findCorrespondences (oldRecords newRecords : List FeatureRecord) : List Correspondence :=
  let candidates := oldRecords.zipIdx.filterMap fun entry =>
    (closestRecords entry.1 newRecords).candidate entry.2
  (candidates.foldl (selectCandidate correspondenceLimit newRecords) []).map fun selected =>
    ⟨selected.oldIndex, selected.newIndex⟩

structure Point where
  x : Int
  y : Int
deriving DecidableEq

def FeatureRecord.point (record : FeatureRecord) : Point := ⟨record.unsignedX, record.unsignedY⟩

def maxInt32 : Int := 0x7fffffff

def transformOf (a b x c d y : Int) : Transform :=
  #v[Int32.ofInt a, Int32.ofInt b, Int32.ofInt x, Int32.ofInt c, Int32.ofInt d, Int32.ofInt y]

def affineFromThreePoints (s₀ s₁ s₂ t₀ t₁ t₂ : Point) : Transform :=
  let dx21 := s₁.x - s₀.x
  let dy21 := s₁.y - s₀.y
  let dx31 := s₂.x - s₀.x
  let dy31 := s₂.y - s₀.y
  let yDenominator := dx21 * dy31 - dx31 * dy21
  let tx1 := t₀.x * 0x400
  let tx2 := t₁.x * 0x400
  let tx3 := t₂.x * 0x400
  let ty1 := t₀.y * 0x400
  let ty2 := t₁.y * 0x400
  let ty3 := t₂.y * 0x400
  let c := if yDenominator = 0 then maxInt32
    else wrap32 (quotient ((ty2 - ty1) * dy31 - (ty3 - ty1) * dy21) yDenominator)
  let d := if yDenominator = 0 then maxInt32
    else wrap32 (quotient ((ty2 - ty1) * dx31 - (ty3 - ty1) * dx21) (-yDenominator))
  let x12 := s₀.x - s₁.x
  let y12 := s₀.y - s₁.y
  let x23 := s₁.x - s₂.x
  let y23 := s₁.y - s₂.y
  let xDenominator := x12 * y23 - x23 * y12
  let a := if xDenominator = 0 then maxInt32
    else wrap32 (quotient ((tx1 - tx2) * y23 - (tx2 - tx3) * y12) xDenominator)
  let b := if xDenominator = 0 then maxInt32
    else wrap32 (quotient ((tx1 - tx2) * x23 - (tx2 - tx3) * x12) (-xDenominator))
  transformOf (shiftRight a 2) (shiftRight b 2) (shiftRight (tx1 - b * s₀.y - a * s₀.x) 10)
    (shiftRight c 2) (shiftRight d 2) (shiftRight (ty3 - d * s₂.y - c * s₂.x) 10)

def transformScaleIsValid (transform : Transform) : Bool :=
  let a := (transform.get 0).toInt
  let b := (transform.get 1).toInt
  let c := (transform.get 3).toInt
  let d := (transform.get 4).toInt
  let m00 := a * a + b * b
  let m01 := a * c + b * d
  let m11 := c * c + d * d
  let trace := m00 + m11
  let discriminant := trace * trace + 4 * (m01 * m01 - m11 * m00)
  let upperDelta := 0xa3 * 0x200 - trace
  let lowerDelta := 0x191 * 0x200 - trace
  discriminant ≥ 0 && trace ≥ 0 && upperDelta ≤ 0 && lowerDelta ≥ 0 &&
    upperDelta * upperDelta > discriminant && lowerDelta * lowerDelta > discriminant

structure TransformResult where
  values : Transform
  error : Int
  inlierCount : Nat
  inliers : List Bool
deriving DecidableEq

def TransformResult.init (count : Nat) : TransformResult :=
  ⟨Vector.replicate 6 0, 0x190000, 0, List.replicate count false⟩

/-- The residual of one pair, if the transform carries it close enough. -/
def pairResidual (transform : Transform) (source target : Point) : Option Int :=
  let predictedX := shiftRight ((transform.get 0).toInt * source.x +
    (transform.get 1).toInt * source.y) 8 + (transform.get 2).toInt
  let predictedY := shiftRight ((transform.get 3).toInt * source.x +
    (transform.get 4).toInt * source.y) 8 + (transform.get 5).toInt
  let dx := predictedX - target.x
  let dy := predictedY - target.y
  let squared := dx * dx + dy * dy
  if dx.natAbs ≤ 0x280 ∧ dy.natAbs ≤ 0x280 ∧ squared < 0x64000 then some squared else none

/-- The rounded mean of the residuals. -/
def averageError (residuals : List Int) : Int :=
  if residuals.length = 0 then 0x190000
  else quotient ((residuals.length / 2 : Nat) + residuals.sum) residuals.length

/-- `first < second < third`, in the order of the three nested loops. -/
def triples (count : Nat) : List (Nat × Nat × Nat) :=
  (List.range count).flatMap fun first =>
    (List.range' (first + 1) (count - (first + 1))).flatMap fun second =>
      (List.range' (second + 1) (count - (second + 1))).map fun third => (first, second, third)

/-- The transform of a triple with the pairs that it carries close enough. -/
def tripleResult (pairs : List (Point × Point)) (p₀ p₁ p₂ : Point × Point) : TransformResult :=
  let transform := affineFromThreePoints p₀.1 p₁.1 p₂.1 p₀.2 p₁.2 p₂.2
  let residuals := pairs.map fun pair => pairResidual transform pair.1 pair.2
  let agreeing := residuals.filterMap id
  ⟨transform, averageError agreeing, agreeing.length, residuals.map Option.isSome⟩

def considerTriple (pairs : List (Point × Point)) (result : TransformResult)
    (triple : Nat × Nat × Nat) : TransformResult :=
  match pairs[triple.1]?, pairs[triple.2.1]?, pairs[triple.2.2]? with
  | some p₀, some p₁, some p₂ =>
    let found := tripleResult pairs p₀ p₁ p₂
    if (found.inlierCount > result.inlierCount ∨
          found.inlierCount = result.inlierCount ∧ found.error < result.error) ∧
        transformScaleIsValid found.values = true then found
    else result
  | _, _, _ => result

/-- Triples are tried until more than twenty pairs agree. -/
def searchTransform (pairs : List (Point × Point)) :
    List (Nat × Nat × Nat) → TransformResult → TransformResult
  | [], result => result
  | triple :: rest, result =>
    let next := considerTriple pairs result triple
    if next.inlierCount > 20 then next else searchTransform pairs rest next

/-- `pairs` are the source points with their target points. -/
def estimateTransform (pairs : List (Point × Point)) : TransformResult :=
  searchTransform pairs (triples pairs.length) (.init pairs.length)

end GoodixSpi.Chicago
