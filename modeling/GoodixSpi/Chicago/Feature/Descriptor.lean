import GoodixSpi.Lib.InsertionSort
import GoodixSpi.Chicago.Feature.Cordic
import GoodixSpi.Chicago.Feature.OrientationPeak
import GoodixSpi.Chicago.Feature.Subtemplate
import GoodixSpi.Chicago.SquareRoots

/-! The descriptor of a record: a histogram of the directions around it in 4 x 4 cells, turned into
its orientation, and the bits that are kept of it. -/

namespace GoodixSpi.Chicago

open CArithmetic

/-! ### `descriptor_sine_cosine` -/

/-- One pass of the loop, on the sine, the cosine and the angle reached. -/
def sineCosineStep (reduced : ℤ) (state : Int16 × Int16 × Int16) (iteration : ℕ) :
    Int16 × Int16 × Int16 :=
  let (sine, cosine, accumulated) := state
  let cosShift := Int16.ofInt (shiftRight cosine.toInt iteration)
  let sinShift := Int16.ofInt (shiftRight sine.toInt iteration)
  let delta := Int16.ofInt (cordicAngles.getD iteration 0)
  if reduced - accumulated.toInt < 0 then
    (sine + -cosShift, cosine + sinShift, accumulated + -delta)
  else (sine + cosShift, cosine + -sinShift, accumulated + delta)

/-- The sine and the cosine of an angle of the half circle, in Q14. -/
def descriptorSineCosine (angle : Int16) : ℤ × ℤ :=
  let turned := angle.toInt > 0x1922
  let reduced := if turned then 0x3244 - angle.toInt else angle.toInt
  if reduced = 0 then (0, if turned then -0x4000 else 0x4000)
  else if reduced = 0x1922 then (0x4000, 0)
  else
    let (sine, cosine, _) := (List.range 13).foldl (sineCosineStep reduced) (0, 0x4000, 0)
    let cosine := shiftRight (cosine.toInt * 0x9b75 + 0x8000) 16
    (shiftRight (sine.toInt * 0x9b75 + 0x8000) 16, if turned then -cosine else cosine)

/-! ### `descriptor_accumulate` -/

/-- What one sample adds to, and how much. -/
structure CellShare where
  row : ℤ
  column : ℤ
  bin : ℕ
  amount : UInt32

/-- The shares of the two bins of one cell. -/
def cellShares (row column angle : ℤ) (value : UInt32) : List CellShare :=
  let orientationBin := (shiftRight angle 12 % 8).toNat
  let orientationFraction := angle - shiftRight angle 12 * 0x1000
  let orientationPart := value * UInt32.ofInt orientationFraction
  [⟨row, column, orientationBin, (value - (orientationPart >>> 12)) >>> 5⟩,
   ⟨row, column, (orientationBin + 1) % 8, orientationPart >>> 17⟩]

/-- The shares of one sample in the four cells around it. -/
def sampleShares (x y angle : ℤ) (weight : Int32) : List CellShare :=
  let xBin := shiftRight x 9
  let yBin := shiftRight y 9
  let xFraction := UInt32.ofInt (x - xBin * 0x200)
  let yFraction := UInt32.ofInt (y - yBin * 0x200)
  let scaledWeight := UInt32.ofInt (shiftRight weight.toInt 9)
  let upperY : UInt32 := (yFraction * scaledWeight) >>> 9
  let lowerY := scaledWeight - upperY
  let upperRight : UInt32 := (xFraction * upperY) >>> 9
  let lowerRight : UInt32 := (xFraction * lowerY) >>> 9
  cellShares (yBin + 1) (xBin + 1) angle (lowerY - lowerRight) ++
    cellShares (yBin + 1) (xBin + 2) angle lowerRight ++
    cellShares (yBin + 2) (xBin + 1) angle (upperY - upperRight) ++
    cellShares (yBin + 2) (xBin + 2) angle upperRight

/-- The place of a share in `accumulator[6][6][8]`. -/
def CellShare.index (share : CellShare) : ℕ :=
  ((share.row * 6 + share.column) * 8).toNat + share.bin

def addShare (accumulator : List UInt32) (share : CellShare) : List UInt32 :=
  accumulator.modify share.index (· + share.amount)

/-! ### `build_descriptor_samples` -/

def descriptorScale3 : ℤ := 0x1822e * 3

def descriptorRadius : ℤ :=
  let radiusQ16 := shiftRight (descriptorScale3 * 0x38916) 16
  min (shiftRight radiusQ16 16 + if radiusQ16 / 0x8000 % 2 ≠ 0 then 1 else 0) 32

def descriptorCoefficient : UInt32 :=
  UInt32.ofInt (quotient 0x200000000000 (descriptorScale3 * descriptorScale3))

/-- The offsets that the two loops visit. -/
def descriptorWindow (centerX centerY : ℤ) : List (ℤ × ℤ) :=
  let minY := max (-descriptorRadius) (1 - centerY)
  let maxY := min descriptorRadius (imageHeight - centerY - 2)
  let minX := max (-descriptorRadius) (1 - centerX)
  let maxX := min descriptorRadius (imageWidth - centerX - 2)
  (loopSteps minY maxY).flatMap fun deltaY =>
    (loopSteps minX maxX).map fun deltaX => (deltaX, deltaY)

/-- The cosine and the sine in cells of the descriptor. -/
def descriptorTurn (featureOrientation : Int16) : ℤ × ℤ :=
  let inverseScale := quotient 0x1000000000 descriptorScale3
  let (sine, cosine) := descriptorSineCosine featureOrientation
  (shiftRight (cosine * inverseScale) 25, shiftRight (sine * inverseScale) 25)

def rotatedX (turn : ℤ × ℤ) (delta : ℤ × ℤ) : ℤ := delta.1 * turn.1 - delta.2 * turn.2

def rotatedY (turn : ℤ × ℤ) (delta : ℤ × ℤ) : ℤ := delta.1 * turn.2 + delta.2 * turn.1

/-- The direction at a pixel from the orientation of the record, one turn as 0x8000. -/
def relativeAngle (direction featureOrientation : Int16) : ℤ :=
  let relative := (0x3244 - direction.toInt - featureOrientation.toInt).tmod 0x6488
  let relative := if relative < 0 then relative + 0x6488 else relative
  ((UInt32.ofInt relative * 0x145f3) >>> 16).toNat

section Samples

variable (magnitude : MagnitudePlane) (orientation : OrientationPlane) (centerX centerY : ℤ)
  (featureOrientation : Int16)

/-- The shares of one pixel; it has none outside the cells. -/
def pixelShares (delta : ℤ × ℤ) : List CellShare :=
  let turn := descriptorTurn featureOrientation
  let pixel := ((centerY + delta.2) * imageWidth + centerX + delta.1).toNat
  if |rotatedX turn delta| ≥ 0x500 ∨ |rotatedY turn delta| ≥ 0x500 then []
  else
    sampleShares (rotatedX turn delta + 0x300) (rotatedY turn delta + 0x300)
      (relativeAngle (orientationAt orientation pixel) featureOrientation)
      (magnitudeAt magnitude pixel *
        orientationWeight descriptorCoefficient delta.1.natAbs delta.2.natAbs).toInt32

/-- All shares, in the order in which they are added. -/
def descriptorShares : List CellShare :=
  (descriptorWindow centerX centerY).flatMap
    (pixelShares magnitude orientation centerX centerY featureOrientation)

def descriptorAccumulator : List UInt32 :=
  (descriptorShares magnitude orientation centerX centerY featureOrientation).foldl addShare
    (List.replicate 288 0)

/-- The sixteen cells in the middle. -/
def buildDescriptorSamples : List Int32 :=
  let accumulator := descriptorAccumulator magnitude orientation centerX centerY featureOrientation
  (List.range 4).flatMap fun y => (List.range 4).flatMap fun x => (List.range 8).map fun bin =>
    (accumulator.getD (((y + 1) * 6 + (x + 1)) * 8 + bin) 0).toInt32

end Samples

/-! ### The bits of the descriptor -/

/-- `integer_square_root`; it is always defined. -/
def integerSquareRoot (value : ℕ) : ℕ := (integerSquareRoot64 value).getD 0

def normalizeDescriptorSamples (samples : List Int32) : List Int16 :=
  let energy := samples.foldl (fun energy sample =>
    energy + sample.toUInt32.toUInt64 * sample.toUInt32.toUInt64) (0 : UInt64)
  let threshold := UInt32.ofNat (integerSquareRoot energy.toNat * 0x3333 / 0x10000)
  let clipped := Int16.ofNat (integerSquareRoot threshold.toNat)
  samples.map fun sample =>
    if sample < threshold.toInt32 then Int16.ofNat (integerSquareRoot sample.toUInt32.toNat)
    else clipped

def hadamardSign (row column : ℕ) : ℤ := if bitCount 32 (row &&& column) % 2 = 1 then -1 else 1

/-- The value in the middle of the sorted ones, the lower one of two. -/
def descriptorMedian (values : List Int16) : Int16 :=
  (InsertionSort.sort (fun earlier value => decide (value < earlier)) values).getD
    ((values.length - 1) / 2) 0

/-- The bits of a word, from the lowest. -/
def wordOfBits (bit : ℕ → Bool) : UInt32 :=
  (List.range 32).foldl (fun word index =>
    if bit index then word ||| (1 <<< index.toUInt32) else word) 0

def hadamardSum (values : List Int16) (bit : ℕ) : ℤ :=
  (values.zipIdx.map fun (value, sample) => value.toInt * hadamardSign bit sample).sum

def blockCoefficients : List (List ℤ) :=
  [[1, 1, 1, 1], [1, -1, 1, -1], [1, 1, -1, -1], [1, -1, -1, 1]]

/-- One of the four words over the blocks of 32 values; the sum of a block is cut to 16 bits. -/
def blockTransform (normalized : List Int16) (output : ℕ) : UInt32 :=
  wordOfBits fun bit =>
    decide (0 < ((List.range 4).map fun block =>
      (blockCoefficients.getD output []).getD block 0 *
        (Int16.ofInt (hadamardSum ((normalized.drop (block * 32)).take 32) bit)).toInt).sum)

def encodeDescriptorFirstPass (normalized : List Int16) (record : FeatureRecord) : FeatureRecord :=
  let median := descriptorMedian normalized
  let medianBits := wordOfBits fun bit => decide (median < normalized.getD (bit * 4 + 1) 0)
  writeBytes record 0x10
    (((List.range 4).flatMap fun output => LittleEndian.bytes (blockTransform normalized output)) ++
      LittleEndian.bytes medianBits ++ List.replicate 4 0)

def encodeDescriptorSecondPass (normalized : List Int16) (record : FeatureRecord) : FeatureRecord :=
  let median := descriptorMedian normalized
  let transform := wordOfBits fun bit => decide (0 < hadamardSum normalized bit)
  let medianBits := wordOfBits fun bit => decide (median < normalized.getD bit 0)
  writeBytes record 0x28
    (LittleEndian.bytes transform ++ LittleEndian.bytes medianBits ++ List.replicate 8 0)

/-! ### `descriptor_is_distinctive` -/

def blockAverage (samples : List Int32) (block : ℕ) : UInt32 :=
  (((samples.drop (block * 8)).take 8).foldl (fun sum sample => sum + sample.toUInt32)
    (0 : UInt32)) >>> 3

def blockVariance (samples : List Int32) (block : ℕ) : UInt32 :=
  let average := (blockAverage samples block).toNat
  ((samples.drop (block * 8)).take 8).foldl (fun sum sample =>
    let delta : ℤ := sample.toInt - average
    sum + UInt32.ofInt (shiftRight (delta * delta) 16)) (0 : UInt32) / 7

def descriptorIsDistinctive (samples : List Int32) (edge : Bool) : Bool :=
  let blocks := List.range 16
  let globalAverage : UInt32 :=
    (blocks.foldl (fun sum block => sum + blockAverage samples block) 0) >>> 4
  let counted := blocks.filter fun block =>
    !(edge && decide (3 * blockAverage samples block < globalAverage))
  let lowVariance := counted.countP fun block => blockVariance samples block < globalAverage / 25
  let highVariance := counted.countP fun block => blockVariance samples block > globalAverage / 8
  (decide (lowVariance > 3) && decide (highVariance < 8)) || decide (lowVariance > 5)

/-! ### `goodix_chicago_feature_build_descriptor` -/

/-- Close to the border of the image. -/
def onEdge (record : FeatureRecord) : Bool :=
  !decide (record.unsignedX > 0x0a00 ∧ record.unsignedX < (imageWidth + 0xf6) * 0x100 % 0x10000 ∧
    record.unsignedY > 0x0a00 ∧ record.unsignedY < (imageHeight + 0xf6) * 0x100 % 0x10000)

/-- The samples of the four cells in the middle. -/
def centralSamples (samples : List Int32) : List Int32 :=
  [40, 48, 72, 80].flatMap fun (start : ℕ) => (samples.drop start).take 8

def buildDescriptor (magnitude : MagnitudePlane) (orientation : OrientationPlane) (aux : FeatureAux)
    (record : FeatureRecord) : FeatureRecord :=
  let samples :=
    buildDescriptorSamples magnitude orientation aux.x.toInt aux.y.toInt record.orientation
  let first := encodeDescriptorFirstPass (normalizeDescriptorSamples samples) record
  let marked :=
    first.setByte 0x38 (if descriptorIsDistinctive samples (onEdge record) then 2 else 0)
  encodeDescriptorSecondPass (normalizeDescriptorSamples (centralSamples samples)) marked

/-! ### `goodix_chicago_feature_finalize_record` -/

/-- `((guint16) value + 8) & 0xfff0`. -/
def roundedCoordinate (value : Int16) : Int16 :=
  (UInt16.ofNat ((value.toUInt16.toNat + 8) / 0x10 * 0x10)).toInt16

/-- To the nearest multiple of 0x100, away from zero in the middle. -/
def roundedOrientation (orientation : Int16) : Int16 :=
  if orientation < 0 then Int16.ofInt (-((0x80 - orientation.toInt) / 0x100 % 0x100 * 0x100))
  else Int16.ofInt ((orientation.toInt + 0x80) / 0x100 % 0x100 * 0x100)

def recordBoundary (refinedY : Int16) : UInt32 :=
  if refinedY.toUInt16.toNat < 0x1400 then 1
  else if refinedY.toUInt16.toNat ≥ imageHeight * 0x100 - 0x1400 then 2
  else 0

def finalizeRecord (record : FeatureRecord) : FeatureRecord :=
  let placed := { record with
    refinedX := roundedCoordinate record.refinedX
    refinedY := roundedCoordinate record.refinedY
    orientation := roundedOrientation record.orientation }
  writeBytes placed 0x0c (LittleEndian.bytes (recordBoundary placed.refinedY))

end GoodixSpi.Chicago
