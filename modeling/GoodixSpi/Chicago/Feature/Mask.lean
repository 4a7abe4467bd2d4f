import GoodixSpi.Chicago.Feature.Record
import GoodixSpi.Chicago.Preprocess.Filter
import GoodixSpi.Lib.CArithmetic
import Mathlib.Algebra.Group.Action.Defs
import Mathlib.Algebra.Order.BigOperators.Group.List

/-! Which pixels carry ridges, and how one-sided the ridges around a record run. Planes are
functions of the column and the row. -/

namespace GoodixSpi.Chicago

open CArithmetic

abbrev FeatureImage := Vector UInt8 pixels

def enhancedAt (enhanced : FeatureImage) (x y : ℕ) : ℕ :=
  (enhanced.toList.getD (y * imageWidth + x) 0).toNat

lemma enhancedAt_eq (enhanced : FeatureImage) {x y : ℕ} (inside : y * imageWidth + x < pixels) :
    enhancedAt enhanced x y = enhanced[y * imageWidth + x].toNat := by
  have listed : y * imageWidth + x < enhanced.toList.length := by rwa [Vector.length_toList]
  rw [enhancedAt, List.getD_eq_getElem?_getD, List.getElem?_eq_getElem listed, Option.getD_some,
    Vector.getElem_toList]

lemma enhancedAt_le (enhanced : FeatureImage) (x y : ℕ) : enhancedAt enhanced x y ≤ 255 :=
  Nat.le_of_lt_succ (UInt8.toNat_lt _)

lemma sum_map_le {α : Type} (items : List α) (value : α → ℕ) {bound : ℕ}
    (small : ∀ item ∈ items, value item ≤ bound) :
    (items.map value).sum ≤ items.length * bound := by
  have each := List.sum_le_card_nsmul (items.map value) bound fun total listed => by
    obtain ⟨item, present, rfl⟩ := List.mem_map.mp listed
    exact small item present
  rwa [List.length_map, smul_eq_mul] at each

/-! ### `goodix_chicago_feature_build_mask` -/

def maskGaussian (tap : ℕ) : ℕ := [0x0df3, 0x3e84, 0x6712, 0x3e84, 0x0df3].getD tap 0

def maskHorizontal (enhanced : FeatureImage) (x y : ℕ) : ℕ :=
  ((List.range 5).map fun (tap : ℕ) =>
    enhancedAt enhanced (temporalReflect101 ((x : ℤ) + tap - 2) imageWidth) y * 0x100 *
      maskGaussian tap).sum / 0x10000 % 0x10000

def maskSmoothed (enhanced : FeatureImage) (x y : ℕ) : ℕ :=
  ((List.range 5).map fun (tap : ℕ) =>
    maskHorizontal enhanced x (temporalReflect101 ((y : ℤ) + tap - 2) imageHeight) *
      maskGaussian tap).sum / 0x10000 % 0x10000

/-- `smoothed[pixel] >> 8`. -/
def maskLevel (enhanced : FeatureImage) (x y : ℕ) : ℤ := (maskSmoothed enhanced x y / 0x100 : ℕ)

/-- Zero in the first and the last column. -/
def maskGradientX (enhanced : FeatureImage) (x y : ℕ) : ℤ :=
  let previousY := temporalReflect101 ((y : ℤ) - 1) imageHeight
  let nextY := temporalReflect101 ((y : ℤ) + 1) imageHeight
  if 1 ≤ x ∧ x + 1 < imageWidth then
    (maskLevel enhanced (x + 1) previousY - maskLevel enhanced (x - 1) previousY) +
      2 * (maskLevel enhanced (x + 1) y - maskLevel enhanced (x - 1) y) +
      (maskLevel enhanced (x + 1) nextY - maskLevel enhanced (x - 1) nextY)
  else 0

/-- Zero in the first and the last row. -/
def maskGradientY (enhanced : FeatureImage) (x y : ℕ) : ℤ :=
  let previousX := temporalReflect101 ((x : ℤ) - 1) imageWidth
  let nextX := temporalReflect101 ((x : ℤ) + 1) imageWidth
  if 1 ≤ y ∧ y + 1 < imageHeight then
    (maskLevel enhanced previousX (y + 1) - maskLevel enhanced previousX (y - 1)) +
      2 * (maskLevel enhanced x (y + 1) - maskLevel enhanced x (y - 1)) +
      (maskLevel enhanced nextX (y + 1) - maskLevel enhanced nextX (y - 1))
  else 0

def maskMagnitude (enhanced : FeatureImage) (x y : ℕ) : ℕ :=
  (maskGradientX enhanced x y).natAbs / 2 + (maskGradientY enhanced x y).natAbs / 2

def buildMask (enhanced : FeatureImage) (x y : ℕ) : ℕ :=
  let sum := ((List.range 15).map fun (dy : ℕ) => ((List.range 15).map fun (dx : ℕ) =>
    maskMagnitude enhanced (temporalReflect101 ((x : ℤ) + dx - 7) imageWidth)
      (temporalReflect101 ((y : ℤ) + dy - 7) imageHeight)).sum).sum
  if sum * (0x10000 / 225) / 0x10000 > 110 then 1 else 0

/-! ### `goodix_chicago_feature_build_annotations` -/

/-- All nine pixels of an inner pixel's neighbourhood are in the mask. -/
def annotationSupported (mask : ℕ → ℕ → ℕ) (x y : ℕ) : Bool :=
  (1 ≤ y && y + 1 < imageHeight && 1 ≤ x && x + 1 < imageWidth) &&
    (List.range 3).all fun dy => (List.range 3).all fun dx => mask (x + dx - 1) (y + dy - 1) != 0

def annotationGradientX (enhanced : FeatureImage) (mask : ℕ → ℕ → ℕ) (x y : ℕ) : ℤ :=
  if annotationSupported mask x y then
    (enhancedAt enhanced (x + 1) y : ℤ) - enhancedAt enhanced (x - 1) y
  else 0

def annotationGradientY (enhanced : FeatureImage) (mask : ℕ → ℕ → ℕ) (x y : ℕ) : ℤ :=
  if annotationSupported mask x y then
    (enhancedAt enhanced x (y + 1) : ℤ) - enhancedAt enhanced x (y - 1)
  else 0

/-- What a pixel adds to an integral: nothing unless its gradient is worth reading. -/
def annotationTerm (enhanced : FeatureImage) (mask : ℕ → ℕ → ℕ)
    (value : ℤ → ℤ → ℕ → ℤ) (x y : ℕ) : ℤ :=
  let gx := annotationGradientX enhanced mask x y
  let gy := annotationGradientY enhanced mask x y
  if mask x y ≠ 0 ∧ gx * gx + gy * gy ≥ 25 then value gx gy (mask x y) else 0

def integralRow (term : ℕ → ℕ → ℤ) (x y : ℕ) : ℤ := ((List.range (x + 1)).map fun x => term x y).sum

/-- A summed-area table: the row so far on top of the rows above. -/
def integral (term : ℕ → ℕ → ℤ) (x : ℕ) : ℕ → ℤ
  | 0 => integralRow term x 0
  | y + 1 => integralRow term x (y + 1) + integral term x y

def annotationRectangleSum (term : ℕ → ℕ → ℤ) (left top right bottom : ℕ) : ℤ :=
  let sum := integral term right bottom
  let sum := if left ≠ 0 then sum - integral term (left - 1) bottom else sum
  let sum := if top ≠ 0 then sum - integral term right (top - 1) else sum
  if left ≠ 0 ∧ top ≠ 0 then sum + integral term (left - 1) (top - 1) else sum

/-- One record's round of the last loop; `bytes[3]` and `bytes[5]` are its column and row. -/
def annotationAt (enhanced : FeatureImage) (mask : ℕ → ℕ → ℕ) (x y : ℕ) : UInt8 :=
  let left := max 1 (x - 16)
  let top := max 1 (y - 16)
  let right := min (imageWidth - 2) (x + 16)
  let bottom := min (imageHeight - 2) (y + 16)
  let area : ℤ := (((right : ℤ) - left + 1) * ((bottom : ℤ) - top + 1)) % 2 ^ 32
  let sumOf (value : ℤ → ℤ → ℕ → ℤ) : ℤ :=
    annotationRectangleSum (annotationTerm enhanced mask value) left top right bottom
  let valid := sumOf fun _ _ mask => mask
  let fixed : ℤ :=
    if valid ≥ area / 2 then
      let half := shiftRight valid 1
      let xx := quotient (sumOf (fun gx _ _ => gx * gx) + half) valid
      let yy := quotient (sumOf (fun _ gy _ => gy * gy) + half) valid
      let xy := quotient (sumOf (fun gx gy _ => gx * gy) + half) valid
      let mean := quotient (xx + yy) 2
      let coherence := quotient ((xx * yy - xy * xy) * 0x10000) (mean * mean + 1)
      max 0 (0x10000 - max 0 coherence)
    else 0
  UInt8.ofInt (shiftRight (fixed * 100) 16)

/-- `bytes[3]`. -/
def FeatureRecord.column (record : FeatureRecord) : ℕ := record.unsignedX / 0x100

/-- `bytes[5]`. -/
def FeatureRecord.row (record : FeatureRecord) : ℕ := record.unsignedY / 0x100

def annotationOf (enhanced : FeatureImage) (record : FeatureRecord) : UInt8 :=
  annotationAt enhanced (buildMask enhanced) record.column record.row

def buildAnnotations (enhanced : FeatureImage) (records : List FeatureRecord) : List UInt8 :=
  records.map (annotationOf enhanced)

end GoodixSpi.Chicago
