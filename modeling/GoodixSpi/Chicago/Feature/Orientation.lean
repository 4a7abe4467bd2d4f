import GoodixSpi.Chicago.Feature.Mask

/-! The main direction around a candidate. Every pixel of a window votes for its direction and for
the opposite one; the votes are smoothed around the circle and a parabola through the largest bin
and its two neighbours gives the orientation. -/

namespace GoodixSpi.Chicago

open CArithmetic

abbrev MagnitudePlane := Vector UInt32 pixels

abbrev OrientationPlane := Vector Int16 pixels

def magnitudeAt (magnitude : MagnitudePlane) (pixel : ℕ) : UInt32 :=
  magnitude.toList.getD pixel 0

def orientationAt (orientation : OrientationPlane) (pixel : ℕ) : Int16 :=
  orientation.toList.getD pixel 0

structure FeatureCandidate where
  x : Int32
  y : Int32
  scale : Int32
  strength : Int32
  refinedX : Int16
  refinedY : Int16
  scaleValue : Int32

/-- One pass of the two loops of `build_orientation_weights`; the other triangle is the mirror
image. -/
def orientationWeight (coefficient : UInt32) (x y : ℕ) : UInt32 :=
  let radiusSquared := (x * x + y * y).toUInt32
  let power := radiusSquared * coefficient
  if power ≤ 0x6ee75 then
    let reduced : UInt32 := power >>> 8
    let reducedSquared : UInt32 := reduced * reduced
    let approximation : UInt32 := reducedSquared >>> 8
    let fourth : UInt32 := (approximation * approximation) >>> 8
    let fifth : UInt32 := (power / 5 + 0x10000) >>> 8
    let sixth : UInt32 := (power / 6 + 0x8000) >>> 8
    let cubic : UInt32 := (sixth * reducedSquared) >>> 15
    let linear : UInt32 := power >>> 7
    let approximation : UInt32 := fourth * fifth / 0xc00 + 0x200 + cubic + linear
    ((approximation >>> 1) + 0x40000) / approximation
  else 0

def orientationRadius (scaleValue : Int32) : ℤ :=
  let radiusQ16 := shiftRight (scaleValue.toUInt32 * 18).toInt32.toInt 2
  let radius :=
    if radiusQ16 < 0 then
      -(shiftRight (-radiusQ16) 16 + if (-radiusQ16) / 0x8000 % 2 ≠ 0 then 1 else 0)
    else shiftRight radiusQ16 16 + if radiusQ16 / 0x8000 % 2 ≠ 0 then 1 else 0
  min radius 32

/-- A scale value whose sigma is zero would divide by zero here; no extremum has one. -/
def orientationCoefficient (scaleValue : Int32) : UInt32 :=
  let sigmaQ16 := shiftRight (scaleValue.toUInt32 * 6).toInt32.toInt 2
  UInt32.ofInt (quotient 0x800000000000 (sigmaQ16 * sigmaQ16))

/-- The steps of a loop from `low` to `high`, both included. -/
def loopSteps (low high : ℤ) : List ℤ :=
  (List.range (high - low + 1).toNat).map fun (i : ℕ) => low + i

/-- The offsets that the two loops visit. -/
def orientationWindow (candidate : FeatureCandidate) : List (ℤ × ℤ) :=
  let radius := orientationRadius candidate.scaleValue
  let minY := max (-radius) (1 - candidate.y.toInt)
  let maxY := min radius (imageHeight - candidate.y.toInt - 2)
  let minX := max (-radius) (1 - candidate.x.toInt)
  let maxX := min radius (imageWidth - candidate.x.toInt - 2)
  (loopSteps minY maxY).flatMap fun deltaY =>
    (loopSteps minX maxX).map fun deltaX => (deltaX, deltaY)

def windowPixel (candidate : FeatureCandidate) (delta : ℤ × ℤ) : ℕ :=
  ((candidate.y.toInt + delta.2) * imageWidth + candidate.x.toInt + delta.1).toNat

/-- The bin that a direction votes for. -/
def orientationBin (direction : Int16) : ℤ :=
  let bin := quotient (direction.toInt * -36 + 0x743d4) 0x6488
  if bin ≥ 36 then 0 else bin

section Histogram

variable (magnitude : MagnitudePlane) (orientation : OrientationPlane)
  (candidate : FeatureCandidate)

/-- The bin of one pixel of the window. -/
def windowBin (delta : ℤ × ℤ) : ℤ :=
  orientationBin (orientationAt orientation (windowPixel candidate delta))

def windowVote (delta : ℤ × ℤ) : UInt32 :=
  (magnitudeAt magnitude (windowPixel candidate delta) *
    orientationWeight (orientationCoefficient candidate.scaleValue) delta.1.natAbs
      delta.2.natAbs) >>> 8

def rawHistogram : List UInt32 :=
  (orientationWindow candidate).foldl (fun raw delta =>
    let bin := (windowBin orientation candidate delta).toNat
    let weighted := windowVote magnitude candidate delta
    (raw.modify bin (· + weighted)).modify ((bin + 18) % 36) (· + weighted))
    (List.replicate 36 0)

/-- Two bins of padding on each side. -/
def extendedHistogram (raw : List UInt32) : List UInt32 :=
  [raw.getD 34 0, raw.getD 35 0] ++ raw ++ [raw.getD 0 0, raw.getD 1 0]

def smoothedBin (extended : List UInt32) (bin : ℕ) : UInt32 :=
  (extended.getD bin 0 + 4 * extended.getD (bin + 1) 0 + 6 * extended.getD (bin + 2) 0 +
    4 * extended.getD (bin + 3) 0 + extended.getD (bin + 4) 0) >>> 4

def orientationHistogram : List UInt32 :=
  let extended := extendedHistogram (rawHistogram magnitude orientation candidate)
  (List.range 36).map (smoothedBin extended)

end Histogram

/-- The first bin that no other exceeds, with its value. -/
def histogramPeak (histogram : List UInt32) : UInt32 × ℕ :=
  (List.range' 1 35).foldl (fun best bin =>
    if histogram.getD bin 0 > best.1 then (histogram.getD bin 0, bin) else best)
    (histogram.getD 0 0, 0)

structure OrientationHistogram where
  histogram : List UInt32
  selectedBin : ℕ
  peak : UInt32

def buildOrientationHistogram (magnitude : MagnitudePlane) (orientation : OrientationPlane)
    (candidate : FeatureCandidate) : OrientationHistogram :=
  let histogram := orientationHistogram magnitude orientation candidate
  { histogram := histogram
    selectedBin := (histogramPeak histogram).2 + 18
    peak := (histogramPeak histogram).1 }

/-! ### `goodix_chicago_feature_materialize_candidate` -/

/-- The parabola through three bins, or none where its denominator is zero. -/
def interpolatePeak (previous current next : UInt32) (selectedBin : ℕ) : Option Int16 :=
  let denominator : ℤ := 2 * previous.toNat + 2 * next.toNat - 4 * current.toNat
  if denominator = 0 then none
  else
    some (Int16.ofInt (quotient (((previous.toNat : ℤ) - next.toNat) * 0x200 -
      shiftRight denominator 1) denominator + selectedBin * 0x200))

def featureOrientation (interpolated : Int16) : Int16 :=
  let interpolated :=
    if interpolated < 0 then interpolated + 0x4800
    else if interpolated ≥ 0x4800 then interpolated - 0x4800
    else interpolated
  let orientation :=
    Int16.ofInt (shiftRight (quotient (interpolated.toInt * 0x6488) 36) 9 - 0x3244)
  if orientation < 0 then orientation + 0x3244 else orientation

structure FeatureAux where
  x : Int32
  y : Int32
  scaleValue : Int32
  peak : UInt32
  selectedPeak : UInt32
  secondaryOrientation : Bool

structure Materialized where
  record : FeatureRecord
  rankStrength : Int32
  rankIndex : UInt32
  aux : FeatureAux

/-- The five pixels around the candidate. -/
def candidateNeighborhood (featureSource : FeatureImage) (candidate : FeatureCandidate) : ℕ :=
  let pixel := (candidate.y.toInt * imageWidth + candidate.x.toInt).toNat
  let sourceAt (index : ℕ) : ℕ := (featureSource.toList.getD index 0).toNat
  sourceAt pixel + sourceAt (pixel - 1) + sourceAt (pixel + 1) + sourceAt (pixel - imageWidth) +
    sourceAt (pixel + imageWidth)

def absoluteStrength (strength : Int32) : Int32 := if strength ≤ 0 then -strength else strength

/-- None where the interpolation divides by zero. -/
def materializeCandidate (featureSource : FeatureImage) (magnitude : MagnitudePlane)
    (orientation : OrientationPlane) (candidate : FeatureCandidate) (index : UInt32) :
    Option Materialized :=
  let built := buildOrientationHistogram magnitude orientation candidate
  let previousBin := if built.selectedBin = 0 then 35 else built.selectedBin - 1
  let nextBin := (built.selectedBin + 1) % 36
  let previous := built.histogram.getD previousBin 0
  let current := built.histogram.getD built.selectedBin 0
  let next := built.histogram.getD nextBin 0
  (interpolatePeak previous current next built.selectedBin).map fun interpolated =>
    { record :=
        { foreground := if candidateNeighborhood featureSource candidate > 0x27f then 1 else 0
          refinedX := candidate.refinedX
          refinedY := candidate.refinedY
          orientation := featureOrientation interpolated
          strength := -absoluteStrength candidate.strength
          descriptor := Vector.replicate 48 0 }
      rankStrength := -absoluteStrength candidate.strength
      rankIndex := index
      aux :=
        { x := candidate.x
          y := candidate.y
          scaleValue := candidate.scaleValue
          peak := built.peak
          selectedPeak := current
          secondaryOrientation := current != built.peak } }

end GoodixSpi.Chicago
