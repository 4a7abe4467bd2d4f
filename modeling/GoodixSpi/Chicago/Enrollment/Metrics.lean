import GoodixSpi.Chicago.Enrollment.Correspondence
import GoodixSpi.Chicago.Enrollment.MetricData

/-! How well two binary planes agree under a transform. The relation metrics and the
configuration-one metrics warp the new plane onto the old one in different ways and
count the same four classes. -/

namespace GoodixSpi.Chicago

open CArithmetic

def metricMapWidth : Nat := 40
def metricMapHeight : Nat := 32
def metricMapPixels : Nat := 1280

/-- `unpack_metric_bits`. -/
def metricPlane (packed : MetricMap) (index : Nat) : Nat := if bitAt packed index then 1 else 0

/-- The coarse mask over 80 x 64 pixels, read with a flat index. -/
def expandMetricMask (packed : MetricMask) (index : Nat) : Nat :=
  if bitAt packed ((index / 80 / 4) * 20 + index % 80 / 4) then 1 else 0

/-- The coarse mask over 40 x 32 pixels. -/
def expandConfig1Mask (packed : MetricMask) (index : Nat) : Nat :=
  if bitAt packed ((index / 40 / 2) * 20 + index % 40 / 2) then 1 else 0

def transformMetricCoordinate (x y : Int) (transform : Transform) : Point where
  x := shiftRight ((transform.get 0).toInt * x + (transform.get 1).toInt * y +
    (transform.get 2).toInt + 0x80) 8
  y := shiftRight ((transform.get 3).toInt * x + (transform.get 4).toInt * y +
    (transform.get 5).toInt + 0x80) 8

/-- The part of the old plane that the warped corners span, clipped to the plane. -/
structure Window where
  minimumX : Int
  minimumY : Int
  width : Nat
  height : Nat

def metricWindow (transform : Transform) : Option Window :=
  let c₀ := transformMetricCoordinate 0 0 transform
  let c₁ := transformMetricCoordinate 39 0 transform
  let c₂ := transformMetricCoordinate 39 31 transform
  let c₃ := transformMetricCoordinate 0 31 transform
  let minimumX := max (min (min (min c₀.x c₁.x) c₂.x) c₃.x) 0
  let minimumY := max (min (min (min c₀.y c₁.y) c₂.y) c₃.y) 0
  let maximumX := min (max (max (max c₀.x c₁.x) c₂.x) c₃.x) 39
  let maximumY := min (max (max (max c₀.y c₁.y) c₂.y) c₃.y) 31
  if maximumX < minimumX ∨ maximumY < minimumY then none
  else some ⟨minimumX, minimumY, (maximumX - minimumX + 1).toNat, (maximumY - minimumY + 1).toNat⟩

/-- The inverse of a transform, in the fixed point of the two warps. -/
structure InverseTransform where
  a : Int
  b : Int
  x : Int
  c : Int
  d : Int
  y : Int

def transformDeterminant (transform : Transform) : Int :=
  wrap32 ((transform.get 0).toInt * (transform.get 4).toInt -
    (transform.get 1).toInt * (transform.get 3).toInt)

def inverseTransform (transform : Transform) (translationX translationY : Int) :
    Option InverseTransform :=
  let a := (transform.get 0).toInt
  let b := (transform.get 1).toInt
  let c := (transform.get 3).toInt
  let d := (transform.get 4).toInt
  let determinant := transformDeterminant transform
  if determinant = 0 then none
  else some {
    a := wrap32 (quotient (d * 0x40000) determinant)
    b := wrap32 (quotient (b * -0x40000) determinant)
    x := wrap32 (quotient ((translationY * b - d * translationX) * 0x400) determinant)
    c := wrap32 (quotient (c * -0x40000) determinant)
    d := wrap32 (quotient (a * 0x40000) determinant)
    y := wrap32 (quotient ((c * translationX - translationY * a) * 0x400) determinant) }

/-- Where an output pixel lies in the source, in units of 1/0x400 pixel. The source
accumulates these two sums row by row and column by column. -/
def InverseTransform.locate (inverse : InverseTransform) (x y : Nat) : Int × Int :=
  (wrap32 (y * inverse.b + x * inverse.a + inverse.x),
    wrap32 (y * inverse.d + x * inverse.c + inverse.y))

/-- The mean of the samples that lie inside. -/
def meanSample (samples : List (Bool × Nat)) : Nat :=
  let inside := (samples.filter Prod.fst).map Prod.snd
  if inside.length ≠ 0 then inside.sum / inside.length else 0xff

def bilinear (source : Int → Nat) (base : Int) (fractionX fractionY : Int) : Nat :=
  let top := source base * (0x400 - fractionX) + source (base + 1) * fractionX
  let bottom := source (base + 40) * (0x400 - fractionX) + source (base + 41) * fractionX
  (shiftRight (bottom * fractionY + top * (0x400 - fractionY) + 0x80000) 20).toNat % 0x100

/-- `metric_source_byte`. -/
def metricSourceByte (source : Nat → Nat) (sourceBytes : Nat) (index : Int) : Nat :=
  if 0 ≤ index ∧ index < sourceBytes then source index.toNat else 0

/-- One pixel of a warped plane. Pixels closer than `border` to the edge of the source
are not interpolated. -/
def warpPixel (border : Int) (source : Int → Nat) (inverse : InverseTransform) (x y : Nat) : Nat :=
  let position := inverse.locate x y
  let sourceX := shiftRight position.1 10
  let sourceY := shiftRight position.2 10
  let base := sourceY * 40 + sourceX
  let leftOut := sourceX < border
  let topOut := sourceY < border
  let rightOut := sourceX + 1 ≥ 40 - border
  let bottomOut := sourceY + 1 ≥ 32 - border
  if sourceX + 1 ≥ border ∧ sourceX < 40 - border ∧ sourceY + 1 ≥ border ∧
      sourceY < 32 - border then
    if ¬leftOut ∧ ¬topOut ∧ ¬bottomOut ∧ ¬rightOut then
      bilinear source base (position.1 - sourceX * 0x400) (position.2 - sourceY * 0x400)
    else
      meanSample [(!leftOut && !topOut, source base), (!leftOut && !bottomOut, source (base + 40)),
        (!rightOut && !topOut, source (base + 1)), (!rightOut && !bottomOut, source (base + 41))]
  else 0xff

/-- How many compared pixels are zero in both planes, one in one of them, or one in both. -/
structure Confusion where
  bothZero : Nat
  oldOne : Nat
  newOne : Nat
  bothOne : Nat
deriving DecidableEq

def Confusion.none : Confusion := ⟨0, 0, 0, 0⟩

def Confusion.total (counts : Confusion) : Nat :=
  counts.bothZero + counts.oldOne + counts.newOne + counts.bothOne

def Confusion.add (counts : Confusion) (oldValue newValue : Nat) : Confusion :=
  match newValue, oldValue with
  | 0, 0 => { counts with bothZero := counts.bothZero + 1 }
  | 0, _ => { counts with oldOne := counts.oldOne + 1 }
  | _, 0 => { counts with newOne := counts.newOne + 1 }
  | _, _ => { counts with bothOne := counts.bothOne + 1 }

def countPixel (window : Window) (oldPlane oldMask : Nat → Nat) (newPlane newMask : Nat → Nat → Nat)
    (counts : Confusion) (pixel : Nat × Nat) : Confusion :=
  let oldIndex := ((window.minimumY + pixel.2) * 40 + window.minimumX + pixel.1).toNat
  let oldValue := oldPlane oldIndex
  let newValue := newPlane pixel.1 pixel.2
  if oldValue < 2 ∧ newValue < 2 ∧ oldMask oldIndex ≠ 0 ∧ newMask pixel.1 pixel.2 ≠ 0 then
    counts.add oldValue newValue
  else counts

def windowPixels (window : Window) : List (Nat × Nat) :=
  (List.range window.height).flatMap fun y => (List.range window.width).map fun x => (x, y)

def countWindow (window : Window) (oldPlane oldMask : Nat → Nat)
    (newPlane newMask : Nat → Nat → Nat) : Confusion :=
  (windowPixels window).foldl (countPixel window oldPlane oldMask newPlane newMask) .none

def coverageMetric (counts : Confusion) : Int :=
  ((counts.total * 0x100 + metricMapPixels / 2) / metricMapPixels : Nat)

def primaryMetric (counts : Confusion) : Int :=
  let withoutBothOne := counts.bothZero + counts.oldOne + counts.newOne
  let bothOne := (counts.bothOne * 0x100 + counts.total / 2) / (counts.total + 1)
  let primary : Int :=
    ((counts.bothZero * 0x100 + withoutBothOne / 2) / (withoutBothOne + 1) : Nat)
  if bothOne < 15 then primary - (((15 - bothOne) / 2 : Nat) + 3) else primary

/-! ### The relation metrics -/

/-- A transform without an inverse warps every pixel to itself. -/
def InverseTransform.default : InverseTransform := ⟨1, 0, 0, 0, 1, 0⟩

/-- Planes and masks both read with a stride of forty, masks from the 80 x 64 form. -/
def calculateRelationMetrics (new old : MetricData) (transform : Transform) : Int × Int :=
  match metricWindow transform with
  | none => (0, 0)
  | some window =>
    let inverse := (inverseTransform transform ((transform.get 2).toInt - window.minimumX * 0x100)
      ((transform.get 5).toInt - window.minimumY * 0x100)).getD .default
    let counts := countWindow window (metricPlane old.primary) (expandMetricMask old.coarseMask)
      (warpPixel 4 (metricSourceByte (metricPlane new.primary) 1280) inverse)
      (warpPixel 4 (metricSourceByte (expandMetricMask new.coarseMask) 5120) inverse)
    (primaryMetric counts, coverageMetric counts)

/-! ### The configuration-one metrics -/

def config1HalfTranslation (value : Int) : Int :=
  let next := value + 1
  shiftRight (if next < 0 then next + 1 else next) 1

def halfTranslated (transform : Transform) : Transform :=
  #v[transform.get 0, transform.get 1,
    Int32.ofInt (config1HalfTranslation (transform.get 2).toInt),
    transform.get 3, transform.get 4,
    Int32.ofInt (config1HalfTranslation (transform.get 5).toInt)]

/-- None when the planes do not overlap or the transform has no inverse. -/
def calculateConfig1Counts (newPacked oldPacked : MetricMap) (newMask oldMask : MetricMask)
    (transform : Transform) : Option Confusion :=
  let adjusted := halfTranslated transform
  match metricWindow adjusted with
  | none => none
  | some window =>
    match inverseTransform adjusted ((adjusted.get 2).toInt - window.minimumX * 0x100)
        ((adjusted.get 5).toInt - window.minimumY * 0x100) with
    | none => none
    | some inverse =>
      some (countWindow window (metricPlane oldPacked) (expandConfig1Mask oldMask)
        (warpPixel 0 (metricSourceByte (metricPlane newPacked) 1280) inverse)
        (warpPixel 0 (metricSourceByte (expandConfig1Mask newMask) 1280) inverse))

def config1SelectorScore (counts : Confusion) : Int :=
  let total := counts.total
  let occupancy := counts.bothOne * 0x100 / (counts.oldOne + counts.newOne + counts.bothOne + 1)
  if total = 0 then 128
  else
    let score := if total > metricMapPixels / 2 then
        (counts.bothZero * 0x100 + total / 2) / total + 3 + 38
      else (counts.bothZero * 0x100 + total / 2) / (total + 1) +
        total * 19 / (metricMapPixels / 2) + 2 + 19
    let activity := (counts.bothOne * 0x100 + total / 2) / total + 3
    if activity > 23 ∨ activity > 18 ∧ occupancy > 62 ∨ activity > 19 ∧ occupancy > 50 ∨
        activity > 17 ∧ occupancy > 40 ∨ score > 230 ∧ activity > 16 then score
    else 128

structure Config1Metrics where
  selectorScore : Int
  metricA : Int
  metricB : Int

def calculateConfig1Metrics (new old : MetricData) (transform : Transform) : Config1Metrics :=
  match calculateConfig1Counts new.primary old.primary new.coarseMask old.coarseMask transform with
  | none => ⟨0, 0, 0⟩
  | some counts => ⟨config1SelectorScore counts, primaryMetric counts, coverageMetric counts⟩

/-! ### The study metrics -/

structure StudyMetrics where
  metric18 : Int
  metric1c : Int
  metric20 : Int

/-- Rounded shares of 0x100; a share of nothing is zero. -/
def calculateStudyMetrics (new old : MetricData) (transform : Transform) : StudyMetrics :=
  match calculateConfig1Counts new.validity old.validity new.coarseMask old.coarseMask
      transform with
  | none => ⟨0, 0, 0⟩
  | some counts =>
    let share := fun part whole : Nat => ((part * 0x100 + whole / 2) / whole : Nat)
    { metric18 := share (counts.bothZero + counts.bothOne) counts.total
      metric1c := share counts.bothZero (counts.bothZero + counts.oldOne + counts.newOne)
      metric20 := share counts.bothOne (counts.oldOne + counts.newOne + counts.bothOne) }

/-- A plane that holds the six live bytes, every nonzero one as a set bit. -/
def liveAuxiliaryPlane (auxiliary : Vector UInt8 6) : MetricMap :=
  packBits metricMapPackedBytes fun bit => (auxiliary.toList.getD bit 0) != 0

/-- How many pixels of the live plane stay zero, change, and stay one. -/
structure LiveAuxiliaryCounts where
  zero : Int
  mixed : Int
  one : Int

def calculateLiveAuxiliaryCountsType24 (auxiliary : Vector UInt8 6) (transform : Transform) :
    LiveAuxiliaryCounts :=
  let packed := liveAuxiliaryPlane auxiliary
  let mask : MetricMask := Vector.replicate _ 0xff
  match calculateConfig1Counts packed packed mask mask transform with
  | none => ⟨0, 0, 0⟩
  | some counts => ⟨counts.bothZero, (counts.oldOne + counts.newOne : Nat), counts.bothOne⟩

end GoodixSpi.Chicago
