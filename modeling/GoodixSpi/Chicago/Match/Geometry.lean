import GoodixSpi.Lib.EarlyExit
import GoodixSpi.Chicago.Enrollment.Correspondence

/-! The affine transform that most matched pairs agree on: a search over triples of
pairs, an orientation filter, and a least-squares refinement in fixed point. -/

namespace GoodixSpi.Chicago

open CArithmetic

def matchGeometryLimit : Nat := 42

/-- A probe record and the gallery record it was matched with. -/
structure PointPair where
  source : Point
  target : Point
  sourceOrientation : Int
  targetOrientation : Int
deriving DecidableEq

/-- `inliers` has one entry for each pair. -/
structure MatchGeometry where
  transform : Transform
  error : Int
  inlierCount : Nat
  inliers : List Bool
deriving DecidableEq

def MatchGeometry.init (pointCount : Nat) : MatchGeometry where
  transform := Vector.replicate 6 0
  error := 0x190000
  inlierCount := 0
  inliers := List.replicate pointCount false

def wrapOrientation (value halfRange fullRange : Int) : Int :=
  let lowered := if value > halfRange then value - fullRange else value
  if lowered < -halfRange then lowered + fullRange else lowered

def pointDistanceQuarter (a b : Point) : Int :=
  let dx := a.x - b.x
  let dy := a.y - b.y
  shiftRight (dx * dx) 2 + shiftRight (dy * dy) 2

def triangleEdgeIsCompatible (sourceDistance targetDistance : Int) : Bool :=
  sourceDistance * 5 ≤ targetDistance * 6 && sourceDistance * 6 ≥ targetDistance * 5 &&
    sourceDistance ≥ 0x30000 && targetDistance ≥ 0x30000

def orientationTripletIsCompatible (d₀ d₁ d₂ threshold : Int) : Bool :=
  let mean := quotient (d₀ + d₁ + d₂) 3
  [d₀, d₁, d₂].all fun delta => !(delta - mean > threshold || delta - mean < -threshold)

def transformIsRigidAndScaled (transform : Transform) : Bool :=
  let a := (transform.get 0).toInt
  let b := (transform.get 1).toInt
  let c := (transform.get 3).toInt
  let d := (transform.get 4).toInt
  (a - d).natAbs < 0x32 && (c + b).natAbs < 0x32 && a.natAbs < 0x12c && b.natAbs < 0x12c &&
    c.natAbs < 0x12c && d.natAbs < 0x12c && transformScaleIsValid transform

/-- A transform without its translation. -/
structure LinearPart where
  a : Int
  b : Int
  c : Int
  d : Int
deriving DecidableEq

def linearPart (transform : Transform) : LinearPart where
  a := (transform.get 0).toInt
  b := (transform.get 1).toInt
  c := (transform.get 3).toInt
  d := (transform.get 4).toInt

/-- Where a transform puts a source point. -/
def predictedPoint (transform : Transform) (source : Point) : Point where
  x := wrap32 (shiftRight ((transform.get 0).toInt * source.x +
    (transform.get 1).toInt * source.y + 0x80) 8 + (transform.get 2).toInt)
  y := wrap32 (shiftRight ((transform.get 3).toInt * source.x +
    (transform.get 4).toInt * source.y + 0x80) 8 + (transform.get 5).toInt)

/-- The residual of one pair, if the transform carries it close enough. -/
def matchResidual (transform : Transform) (pair : PointPair) : Option Int :=
  let predicted := predictedPoint transform pair.source
  let dx := predicted.x - pair.target.x
  let dy := predicted.y - pair.target.y
  let squared := dx * dx + dy * dy
  if dx.natAbs ≤ 0x280 ∧ dy.natAbs ≤ 0x280 ∧ squared < 0x64000 then some squared else none

/-! ### The search over triples -/

structure GeometrySearch where
  attempted : Nat
  result : MatchGeometry

def edgeIsCompatible (p q : PointPair) : Bool :=
  triangleEdgeIsCompatible (pointDistanceQuarter p.source q.source)
    (pointDistanceQuarter p.target q.target)

def orientationsAreCompatible (strict : Bool) (p₀ p₁ p₂ : PointPair) : Bool :=
  let halfRange := if strict then 0x1922 else 0x3244
  let fullRange := if strict then 0x3244 else 0x6488
  let threshold := if strict then 0x400 else 0x800
  let delta := fun p : PointPair =>
    wrapOrientation (p.targetOrientation - p.sourceOrientation) halfRange fullRange
  let turned := fun p : PointPair => wrapOrientation (delta p + halfRange) halfRange fullRange
  orientationTripletIsCompatible (delta p₀) (delta p₁) (delta p₂) threshold ||
    (strict && orientationTripletIsCompatible (turned p₀) (turned p₁) (turned p₂) threshold)

/-- The innermost round; it returns once more than twenty pairs agree. -/
def considerThird (pairs : List PointPair) (minimumInliers : Nat) (strict : Bool)
    (p₀ p₁ : PointPair) (search : GeometrySearch) (p₂ : PointPair) :
    EarlyExit.Step GeometrySearch MatchGeometry :=
  if (orientationsAreCompatible strict p₀ p₁ p₂ && edgeIsCompatible p₀ p₂ &&
      edgeIsCompatible p₁ p₂) = false then .next search
  else
    let attempted := search.attempted + 1
    let transform := affineFromThreePoints p₀.source p₁.source p₂.source p₀.target p₁.target
      p₂.target
    if transformIsRigidAndScaled transform = false then .next { search with attempted }
    else
      let residuals := pairs.map (matchResidual transform)
      let agreeing := residuals.filterMap id
      let average := averageError agreeing
      if agreeing.length < minimumInliers ∨ agreeing.length < search.result.inlierCount ∨
          (agreeing.length = search.result.inlierCount ∧ average ≥ search.result.error) then
        .next { search with attempted }
      else
        let result := ⟨transform, average, agreeing.length, residuals.map Option.isSome⟩
        if agreeing.length > 20 then .stop result else .next ⟨attempted, result⟩

def considerSecond (pairs : List PointPair) (minimumInliers : Nat) (strict : Bool)
    (p₀ : PointPair) (search : GeometrySearch) :
    List PointPair → EarlyExit.Step GeometrySearch MatchGeometry
  | [] => .next search
  | p₁ :: later =>
    if edgeIsCompatible p₀ p₁ then
      EarlyExit.run (considerThird pairs minimumInliers strict p₀ p₁) later search
    else .next search

/-- Only here the number of attempts ends the search. -/
def considerFirst (pairs : List PointPair) (minimumInliers : Nat) (strict : Bool)
    (search : GeometrySearch) : List PointPair → EarlyExit.Step GeometrySearch MatchGeometry
  | [] => .next search
  | p₀ :: later =>
    if search.attempted < 0x3b2 then
      EarlyExit.run (considerSecond pairs minimumInliers strict p₀) later.tails search
    else .next search

def estimateGeometry (pairs : List PointPair) (minimumInliers : Nat) (strict : Bool) :
    MatchGeometry :=
  match EarlyExit.run (considerFirst pairs minimumInliers strict) pairs.tails
      ⟨0, .init pairs.length⟩ with
  | .next search => search.result
  | .stop result => result

/-! ### The orientation filter -/

/-- `match_integer_sqrt`. -/
def matchIntegerSqrtStep (state : UInt32 × UInt32) (shift : Nat) : UInt32 × UInt32 :=
  let bit : UInt32 := 1 <<< UInt32.ofNat shift
  let trial := (bit + state.2 * 2) <<< UInt32.ofNat shift
  if state.1 ≥ trial then (state.1 - trial, state.2 + bit) else state

def matchIntegerSqrt (value : UInt32) : UInt32 :=
  if value ≤ 1 then value
  else ((List.range 16).reverse.foldl matchIntegerSqrtStep (value, 0)).2

def matchCordicAngles : List UInt16 :=
  [0x0c91, 0x076b, 0x03eb, 0x01fd, 0x0100, 0x0080, 0x0040, 0x0020, 0x0010, 0x0008, 0x0004,
    0x0002, 0x0001]

def matchCordicGains : List Int :=
  [0xb505, 0xa1e9, 0x9d13, 0x9bdd, 0x9b8f, 0x9b7b, 0x9b77, 0x9b75, 0x9b75, 0x9b75, 0x9b75,
    0x9b75, 0x9b75]

structure Cordic where
  x : Int
  y : Int
  angle : UInt16

/-- One rotation; the loop ends early when the vertical part is gone. -/
def Cordic.rotate (state : Cordic) (iteration : Nat) : EarlyExit.Step Cordic (Cordic × Nat) :=
  let yShift := shiftRight state.y iteration
  let xShift := shiftRight state.x iteration
  let turn := matchCordicAngles.getD iteration 0
  let rotated : Cordic :=
    if state.y > 0 then ⟨state.x + yShift, state.y - xShift, state.angle + turn⟩
    else ⟨state.x - yShift, state.y + xShift, state.angle - turn⟩
  if rotated.y = 0 then .stop (rotated, iteration) else .next rotated

/-- The angle, with the length that the source writes back to `horizontal`. -/
def matchCordicOrientation (vertical horizontal : Int) : UInt16 × Int :=
  let x : Int := horizontal.natAbs
  let y : Int := vertical.natAbs
  if y = 0 then (if horizontal > 0 then 0 else 0x3244, x)
  else if x = 0 then (if vertical > 0 then 0x1922 else 0xe6de, y)
  else
    let (state, stop) :=
      match EarlyExit.run Cordic.rotate (List.range 13) ⟨x, y, 0⟩ with
      | .next state => (state, 12)
      | .stop (state, iteration) => (state, iteration)
    let angle :=
      if horizontal > 0 then if vertical < 0 then -state.angle else state.angle
      else if vertical > 0 then 0x3244 - state.angle
      else state.angle + 0xcdbc
    (angle, wrap32 (shiftRight (matchCordicGains.getD stop 0 * state.x + 0x8000) 16))

def circularOrientationDistance (value : Int) : Int :=
  let raised := if value < 0 then value + 0x6488 else value
  let lowered := if raised > 0x6488 then raised - 0x6488 else raised
  min lowered (0x6488 - lowered)

/-- The turn of a transform in 0 .. 0x6487, or none for a transform without a scale. -/
def transformRotation (transform : Transform) : Option Int :=
  let a := (transform.get 0).toInt
  let b := (transform.get 1).toInt
  let c := (transform.get 3).toInt
  let d := (transform.get 4).toInt
  let firstScale := matchIntegerSqrt (UInt32.ofNat (a * a + c * c).toNat)
  let secondScale := matchIntegerSqrt (UInt32.ofNat (b * b + d * d).toNat)
  let scale : Int := ((firstScale + secondScale) / 2).toNat
  if scale = 0 then none
  else
    let horizontal := quotient (quotient (d + a) 2 * 256) scale
    let vertical := quotient (quotient (c - b) 2 * 256) scale
    let rotation := (matchCordicOrientation vertical horizontal).1.toInt16.toInt
    some (if rotation < 0 then rotation + 0x6488 else rotation)

def orientationAgrees (rotation : Int) (pair : PointPair) : Bool :=
  let delta := pair.targetOrientation - pair.sourceOrientation + rotation
  min (circularOrientationDistance delta) (circularOrientationDistance (delta + 0x3244)) ≤ 0x506

/-- `goodix_chicago_match_filter_orientations`; the source also returns how many are left. -/
def filterOrientations (transform : Transform) (pairs : List PointPair) (inliers : List Bool) :
    List Bool :=
  match transformRotation transform with
  | none => inliers
  | some rotation =>
    List.zipWith (fun pair inlier => inlier && orientationAgrees rotation pair) pairs inliers

/-! ### The refinement -/

def divideNearest (numerator denominator : Int) : Int :=
  let half := shiftRight denominator 1
  if numerator ≥ 0 then wrap32 (quotient (numerator + half) denominator)
  else wrap32 (-quotient (half - numerator) denominator)

def PointPair.design (pair : PointPair) : Vector Int 3 := #v[pair.source.x, pair.source.y, 0x100]

def PointPair.goal (pair : PointPair) : Vector Int 2 := #v[pair.target.x, pair.target.y]

def gramEntry (active : List PointPair) (row column : Fin 3) : Int :=
  shiftRight ((active.map fun pair => pair.design[row] * pair.design[column]).sum + 0x80) 8

def crossEntry (active : List PointPair) (row : Fin 3) (axis : Fin 2) : Int :=
  shiftRight ((active.map fun pair => pair.design[row] * pair.goal[axis]).sum + 0x80) 8

def cofactors (gram : Fin 3 → Fin 3 → Int) : Vector (Vector Int 3) 3 :=
  #v[#v[gram 1 1 * gram 2 2 - gram 1 2 * gram 2 1, gram 1 2 * gram 2 0 - gram 1 0 * gram 2 2,
      gram 1 0 * gram 2 1 - gram 1 1 * gram 2 0],
    #v[gram 0 2 * gram 2 1 - gram 0 1 * gram 2 2, gram 0 0 * gram 2 2 - gram 0 2 * gram 2 0,
      gram 0 1 * gram 2 0 - gram 0 0 * gram 2 1],
    #v[gram 0 1 * gram 1 2 - gram 0 2 * gram 1 1, gram 0 2 * gram 1 0 - gram 0 0 * gram 1 2,
      gram 0 0 * gram 1 1 - gram 0 1 * gram 1 0]]

def gramDeterminant (gram : Fin 3 → Fin 3 → Int) : Int :=
  let cofactor := (cofactors gram).get 0
  shiftRight (gram 0 0 * cofactor.get 0 + gram 0 1 * cofactor.get 1 +
    gram 0 2 * cofactor.get 2 + 0x80) 8

def refinedCoefficient (active : List PointPair) (coefficient : Fin 3) (axis : Fin 2) : Int :=
  let gram := gramEntry active
  let numerator := ((List.finRange 3).map fun row =>
    (cofactors gram)[row][coefficient] * crossEntry active row axis).sum
  divideNearest numerator (gramDeterminant gram)

def refinedTransform (active : List PointPair) : Transform :=
  transformOf (refinedCoefficient active 0 0) (refinedCoefficient active 1 0)
    (refinedCoefficient active 2 0) (refinedCoefficient active 0 1)
    (refinedCoefficient active 1 1) (refinedCoefficient active 2 1)

/-- The squared residual of one pair under the refined transform, if it is small. -/
def refinedResidual (transform : Transform) (pair : PointPair) : Option Nat :=
  let predicted := predictedPoint transform pair.source
  let dx := predicted.x - pair.target.x
  let dy := predicted.y - pair.target.y
  let squared := (dx * dx + dy * dy).toNat
  if squared < 0x64000 then some squared else none

/-- `goodix_chicago_match_refine_geometry`: the new transform if it is better. The limit is
compared as an unsigned 64-bit value. -/
def refineGeometry (pairs : List PointPair) (inliers : List Bool) (errorLimit : Int) :
    Option Transform :=
  let active := ((pairs.zip inliers).filter Prod.snd).map Prod.fst
  if gramDeterminant (gramEntry active) = 0 then none
  else
    let candidate := refinedTransform active
    let residuals := pairs.filterMap (refinedResidual candidate)
    let average := if residuals.length = 0 then 0x190000
      else (residuals.sum + residuals.length / 2) / residuals.length
    if (average : Int) ≥ errorLimit % 2 ^ 64 ∨ residuals.length < active.length then none
    else some candidate

/-! ### The terms of its sums -/

def gramTerms (active : List PointPair) (row column : Fin 3) : List Int :=
  active.map fun pair => pair.design[row] * pair.design[column]

def crossTerms (active : List PointPair) (row : Fin 3) (axis : Fin 2) : List Int :=
  active.map fun pair => pair.design[row] * pair.goal[axis]

/-- The two products of each cofactor. -/
def cofactorProducts (gram : Fin 3 → Fin 3 → Int) : List (Int × Int) :=
  [(gram 1 1 * gram 2 2, gram 1 2 * gram 2 1), (gram 1 2 * gram 2 0, gram 1 0 * gram 2 2),
    (gram 1 0 * gram 2 1, gram 1 1 * gram 2 0), (gram 0 2 * gram 2 1, gram 0 1 * gram 2 2),
    (gram 0 0 * gram 2 2, gram 0 2 * gram 2 0), (gram 0 1 * gram 2 0, gram 0 0 * gram 2 1),
    (gram 0 1 * gram 1 2, gram 0 2 * gram 1 1), (gram 0 2 * gram 1 0, gram 0 0 * gram 1 2),
    (gram 0 0 * gram 1 1, gram 0 1 * gram 1 0)]

def determinantTerms (gram : Fin 3 → Fin 3 → Int) : List Int :=
  let cofactor := (cofactors gram).get 0
  [gram 0 0 * cofactor.get 0, gram 0 1 * cofactor.get 1, gram 0 2 * cofactor.get 2]

def numeratorTerms (active : List PointPair) (coefficient : Fin 3) (axis : Fin 2) : List Int :=
  (List.finRange 3).map fun row =>
    (cofactors (gramEntry active))[row][coefficient] * crossEntry active row axis

/-- The coefficients: those of the two coordinates, and the constant one. -/
def horizontalSlope : Fin 3 := 0

def verticalSlope : Fin 3 := 1

def translation : Fin 3 := 2

def horizontalAxis : Fin 2 := 0

/-! ### The whole chain -/

def geometryConsensus (pairs : List PointPair) (minimumInliers : Nat) : MatchGeometry :=
  let estimated := estimateGeometry pairs minimumInliers true
  let inliers := filterOrientations estimated.transform pairs estimated.inliers
  let surviving := inliers.count true
  let refined := if surviving ≥ 4 ∧ estimated.error > 0x4000 then
      refineGeometry pairs inliers estimated.error
    else none
  { transform := refined.getD estimated.transform
    error := estimated.error
    inlierCount := surviving
    inliers := inliers }

def pointPair (gallery probe : FeatureRecord) : PointPair where
  source := probe.point
  target := gallery.point
  sourceOrientation := probe.orientation.toInt
  targetOrientation := gallery.orientation.toInt

/-- Pairs that name no record are passed over. -/
def matchedPoints (galleryRecords probeRecords : List FeatureRecord)
    (pairs : List Correspondence) : List PointPair :=
  (pairs.filterMap fun pair =>
    match galleryRecords[pair.oldIndex]?, probeRecords[pair.newIndex]? with
    | some gallery, some probe => some (pointPair gallery probe)
    | _, _ => none).take matchGeometryLimit

def geometryConsensusRecords (galleryRecords probeRecords : List FeatureRecord)
    (pairs : List Correspondence) (minimumInliers : Nat) : MatchGeometry :=
  geometryConsensus (matchedPoints galleryRecords probeRecords pairs) minimumInliers

end GoodixSpi.Chicago
