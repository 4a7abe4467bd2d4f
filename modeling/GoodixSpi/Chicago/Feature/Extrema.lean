import GoodixSpi.Lib.Reinterpret
import GoodixSpi.Chicago.Feature.Filter
import GoodixSpi.Chicago.Feature.OrientationPeak
import GoodixSpi.Chicago.Feature.RefinementOffset
import Mathlib.Tactic.Ring

/-! The extrema of the scale space and their refinement below the pixel. What the refinement accepts
stays inside the image and the scales, within half a pixel of the sample it ended at. -/

namespace GoodixSpi.Chicago

open CArithmetic Reinterpret

/-- `scales[scale][y * width + x]`. -/
def scaleAt (scales : List Plane) (scale x y : ℤ) : ℤ :=
  planeAt (scales.getD scale.toNat (Vector.replicate pixels 0)) x.toNat y.toNat

/-! ### `goodix_chicago_feature_collect_extrema` -/

structure FeatureExtremum where
  x : ℤ
  y : ℤ
  scale : ℤ
  response : ℤ

/-- `(gint16) (scales[scale + 1][pixel] - scales[scale][pixel])`. -/
def scaleResponse (scales : List Plane) (scale x y : ℤ) : ℤ :=
  (Int16.ofInt (scaleAt scales (scale + 1) x y - scaleAt scales scale x y)).toInt

/-- The sample and the 26 around it. -/
def neighborhoodOffsets : List (ℤ × ℤ × ℤ) :=
  [-1, 0, 1].flatMap fun scale => [-1, 0, 1].flatMap fun y => [-1, 0, 1].map fun x => (scale, y, x)

/-- No neighbour exceeds a response; the responses of the neighbours are not cut to 16 bits. -/
def isExtremum (scales : List Plane) (scale x y response : ℤ) : Bool :=
  neighborhoodOffsets.all fun (deltaScale, deltaY, deltaX) =>
    let neighbor := scaleAt scales (scale + deltaScale + 1) (x + deltaX) (y + deltaY) -
      scaleAt scales (scale + deltaScale) (x + deltaX) (y + deltaY)
    !decide (response > 0 ∧ neighbor > response ∨ response < 0 ∧ neighbor < response)

def extremumAt (scales : List Plane) (scale x y : ℤ) : Option FeatureExtremum :=
  let response := scaleResponse scales scale x y
  if |response| > 0x148 ∧ response ≠ 0 ∧ isExtremum scales scale x y response then
    some ⟨x, y, scale, response⟩
  else none

/-- The samples that the three loops visit. -/
def scanPositions : List (ℤ × ℤ × ℤ) :=
  [6, 5, 4, 3, 2, 1].flatMap fun scale =>
    (List.range' 6 (imageHeight - 12)).flatMap fun (y : ℕ) =>
      (List.range' 6 (imageWidth - 12)).map fun (x : ℕ) => (scale, (y : ℤ), (x : ℤ))

/-- What is stored, and the number of all extrema. -/
def collectExtrema (scales : List Plane) (capacity : ℕ) : List FeatureExtremum × ℕ :=
  (scanPositions.filterMap fun (scale, y, x) => extremumAt scales scale x y).foldl
    (fun found extremum =>
      (if found.2 < capacity then found.1 ++ [extremum] else found.1, found.2 + 1)) ([], 0)

/-! ### `build_refinement_derivatives` -/

/-- A derivative that fits; larger ones end the refinement. -/
def derivative (limit value : ℤ) : Option Int16 :=
  if |value| ≥ limit then none else some (Int16.ofInt value)

def buildRefinementDerivatives (scales : List Plane) (x y scale : ℤ) :
    Option (Hessian × Gradient × Int16) :=
  let previous (dx dy : ℤ) := scaleAt scales (scale - 1) (x + dx) (y + dy)
  let current (dx dy : ℤ) := scaleAt scales scale (x + dx) (y + dy)
  let next (dx dy : ℤ) := scaleAt scales (scale + 1) (x + dx) (y + dy)
  let next2 (dx dy : ℤ) := scaleAt scales (scale + 2) (x + dx) (y + dy)
  let center := Int16.ofInt (2 * (next 0 0 - current 0 0))
  do
    let g0 ← derivative 0x8000
      (2 * (current (-1) 0 - next (-1) 0 - current 1 0 + next 1 0))
    let g1 ← derivative 0x8000
      (2 * (current 0 (-1) - next 0 (-1) - current 0 1 + next 0 1))
    let g2 ← derivative 0x8000
      (2 * (previous 0 0 - current 0 0 - next 0 0 + next2 0 0))
    let h00 ← derivative 0x8000
      (4 * (next (-1) 0 - current (-1) 0 - current 1 0 - center.toInt + next 1 0))
    let h11 ← derivative 0x8000
      (4 * (next 0 (-1) - current 0 (-1) - center.toInt - current 0 1 + next 0 1))
    let h22 ← derivative 0x8000
      (4 * (current 0 0 - previous 0 0 - next 0 0 - center.toInt + next2 0 0))
    let h01 ← derivative 0x2000
      (current (-1) 1 - next (-1) 1 - next 1 (-1) - current 1 1 - current (-1) (-1) +
        current 1 (-1) + next 1 1 + next (-1) (-1))
    let h12 ← derivative 0x2000
      (previous 0 1 - previous 0 (-1) - next2 0 (-1) + next2 0 1 - next 0 1 - current 0 1 +
        current 0 (-1) + next 0 (-1))
    let h02 ← derivative 0x2000
      (previous 1 0 - previous (-1) 0 - next2 (-1) 0 + next2 1 0 - current 1 0 - next 1 0 +
        next (-1) 0 + current (-1) 0)
    some (⟨h00, h11, h22, h01, h12, h02⟩, ⟨g0, g1, g2⟩, center)

/-! ### `goodix_chicago_feature_refine_extremum` -/

def roundQ12Move (value : ℤ) : ℤ :=
  let magnitude := value.natAbs
  let rounded : ℤ := magnitude / 0x1000 + if magnitude / 0x800 % 2 ≠ 0 then 1 else 0
  if value < 0 then -rounded else rounded

def chicagoExp2Thresholds : List ℕ :=
  [0x95c0, 0x526a, 0x2b80, 0x1664, 0x0b5d, 0x05ba, 0x02e0, 0x0171, 0x00b8, 0x005c, 0x002e, 0x0017,
   0x000c, 0x0006, 0x0003, 0x0001]

/-- What the loop over the thresholds makes of the fraction and the result. -/
def exp2Loop : List ℕ → ℕ → ℕ → ℕ → ℕ
  | [], _, _, result => result
  | threshold :: rest, bit, fraction, result =>
    if fraction < threshold then exp2Loop rest (bit + 1) fraction result
    else exp2Loop rest (bit + 1) (fraction - threshold) (result + result / 2 ^ (bit + 1))

def chicagoExp2Q16 (value : ℤ) : UInt32 :=
  let magnitude := value.natAbs
  let result := exp2Loop chicagoExp2Thresholds 0 (magnitude % 0x10000)
    (0x10000 * 2 ^ (magnitude / 0x10000))
  if value > 0 then UInt32.ofNat result else UInt32.ofNat (0x100000000 / result)

def refinementContrast (gradient : Gradient) (center : Int16) (offset0 offset1 offset2 : ℤ) : ℤ :=
  let contrast := center.toInt * 0x2000 + gradient.g0.toInt * offset0 +
    gradient.g1.toInt * offset1 + gradient.g2.toInt * offset2
  if contrast ≤ 0 then -contrast else contrast

/-- The last part of a round: the offset is below half a sample on every axis. -/
def acceptRefinement (hessian : Hessian) (gradient : Gradient) (center : Int16)
    (offset0 offset1 offset2 x y scale : ℤ) (candidate : FeatureCandidate) :
    FeatureCandidate × Option UInt32 :=
  let contrast := refinementContrast gradient center offset0 offset1 offset2
  if contrast < 0x1478000 then (candidate, none)
  else
    let candidate := { candidate with strength := Int32.ofInt (shiftRight contrast 12) }
    let trace := hessian.h00.toInt + hessian.h11.toInt
    let determinant :=
      hessian.h00.toInt * hessian.h11.toInt - hessian.h01.toInt * hessian.h01.toInt
    if determinant ≤ 0 then (candidate, none)
    else
      ({ candidate with
          refinedX := Int16.ofInt (shiftRight (x * 0x1000 + offset0) 4)
          refinedY := Int16.ofInt (shiftRight (y * 0x1000 + offset1) 4)
          scaleValue :=
            (chicagoExp2Q16 (quotient ((scale * 0x1000 + offset2) * 0x10) 4)).toInt32 },
        some (UInt32.ofInt (quotient (trace * trace * 0x400) determinant)))

/-- The rounds that are left. The candidate is moved whether it is accepted or not; the curvature
says that it is. The solver always gives an offset. -/
def refineRounds (scales : List Plane) :
    ℕ → ℤ → ℤ → ℤ → FeatureCandidate → FeatureCandidate × Option UInt32
  | 0, _, _, _, candidate => (candidate, none)
  | rounds + 1, x, y, scale, candidate =>
    match buildRefinementDerivatives scales x y scale with
    | none => (candidate, none)
    | some (hessian, gradient, center) =>
      let solved := (solveRefinementOffset hessian gradient).getD (Vector.replicate 3 0)
      let offset (axis : ℕ) := solved.toList.getD axis 0
      if |offset 0| < 0x800 ∧ |offset 1| < 0x800 ∧ |offset 2| < 0x800 then
        acceptRefinement hessian gradient center (offset 0) (offset 1) (offset 2) x y scale
          candidate
      else
        let x := x + roundQ12Move (offset 0)
        let y := y + roundQ12Move (offset 1)
        let scale := scale + roundQ12Move (offset 2)
        let candidate :=
          { candidate with x := Int32.ofInt x, y := Int32.ofInt y, scale := Int32.ofInt scale }
        if scale < 1 ∨ scale > 6 ∨ x < 1 ∨ x ≥ imageWidth - 1 ∨ y < 1 ∨ y ≥ imageHeight - 1 then
          (candidate, none)
        else refineRounds scales rounds x y scale candidate

def refineExtremum (scales : List Plane) (candidate : FeatureCandidate) :
    FeatureCandidate × Option UInt32 :=
  refineRounds scales 5 candidate.x.toInt candidate.y.toInt candidate.scale.toInt candidate

/-! ### The extrema -/

/-- All extrema, in the order in which they are found. -/
def allExtrema (scales : List Plane) : List FeatureExtremum :=
  scanPositions.filterMap fun (scale, y, x) => extremumAt scales scale x y

/-- The first ones are stored, and all are counted. -/
lemma collectExtrema_eq (scales : List Plane) (capacity : ℕ) :
    collectExtrema scales capacity =
      ((allExtrema scales).take capacity, (allExtrema scales).length) := by
  unfold collectExtrema
  change (allExtrema scales).foldl _ _ = _
  induction allExtrema scales using List.reverseRecOn with
  | nil => simp
  | append_singleton before extremum ih =>
    rw [List.foldl_append, ih, List.foldl_cons, List.foldl_nil, List.length_append]
    simp only
    split
    · next room =>
      rw [List.take_of_length_le room.le,
        List.take_of_length_le (by rw [List.length_append]; exact room)]
      rfl
    · next full =>
      rw [List.take_append_of_le_length (not_lt.mp full)]
      rfl

structure FeatureExtremum.Inside (extremum : FeatureExtremum) : Prop where
  left : 6 ≤ extremum.x
  right : extremum.x + 6 < imageWidth
  top : 6 ≤ extremum.y
  bottom : extremum.y + 6 < imageHeight
  low : 1 ≤ extremum.scale
  high : extremum.scale ≤ 6
  strong : 0x148 < |extremum.response|

lemma allExtrema_inside {scales : List Plane} {extremum : FeatureExtremum}
    (listed : extremum ∈ allExtrema scales) : extremum.Inside := by
  obtain ⟨⟨scale, y, x⟩, visited, found⟩ := List.mem_filterMap.mp listed
  unfold extremumAt at found
  dsimp only at found
  split at found
  · next strong =>
    cases found
    obtain ⟨level, levels, lines⟩ := List.mem_flatMap.mp visited
    obtain ⟨line, inLines, columns⟩ := List.mem_flatMap.mp lines
    obtain ⟨column, inColumns, here⟩ := List.mem_map.mp columns
    cases here
    have rows := List.mem_range'_1.mp inLines
    have places := List.mem_range'_1.mp inColumns
    have range : 1 ≤ scale ∧ scale ≤ 6 := by
      simp only [List.mem_cons, List.not_mem_nil, or_false] at levels
      omega
    simp only [imageWidth, imageHeight] at rows places
    refine ⟨?_, ?_, ?_, ?_, range.1, range.2, strong.1⟩ <;>
      simp only [imageWidth, imageHeight] <;> omega
  · cases found

/-! ### The refinement -/

/-- Inside the image, refined within half a pixel and on a scale that is not zero. -/
structure FeatureCandidate.Placed (candidate : FeatureCandidate) : Prop where
  interior : candidate.Interior
  left : candidate.x.toInt * 0x100 - 0x80 ≤ candidate.refinedX.toInt
  right : candidate.refinedX.toInt < candidate.x.toInt * 0x100 + 0x80
  top : candidate.y.toInt * 0x100 - 0x80 ≤ candidate.refinedY.toInt
  bottom : candidate.refinedY.toInt < candidate.y.toInt * 0x100 + 0x80
  scale : 0x10000 ≤ candidate.scaleValue.toInt ∧ candidate.scaleValue.toInt < 0x7000000

lemma exp2Loop_ge (thresholds : List ℕ) (bit fraction result : ℕ) :
    result ≤ exp2Loop thresholds bit fraction result := by
  fun_induction exp2Loop thresholds bit fraction result with
  | case1 => exact le_rfl
  | case2 _ _ _ _ _ _ ih => exact ih
  | case3 _ _ _ _ _ _ ih => exact (Nat.le_add_right _ _).trans ih

/-- Each threshold adds at most one half. -/
lemma exp2Loop_le (thresholds : List ℕ) (bit fraction result : ℕ) :
    2 ^ thresholds.length * exp2Loop thresholds bit fraction result ≤
      3 ^ thresholds.length * result := by
  fun_induction exp2Loop thresholds bit fraction result with
  | case1 => simp
  | case2 threshold rest bit fraction result below ih =>
    rw [List.length_cons, pow_succ, pow_succ]
    calc 2 ^ rest.length * 2 * exp2Loop rest (bit + 1) fraction result
        = 2 * (2 ^ rest.length * exp2Loop rest (bit + 1) fraction result) := by ring
      _ ≤ 3 * (3 ^ rest.length * result) := Nat.mul_le_mul (by norm_num) ih
      _ = 3 ^ rest.length * 3 * result := by ring
  | case3 threshold rest bit fraction result reached ih =>
    have half : 2 * (result + result / 2 ^ (bit + 1)) ≤ 3 * result := by
      have small : result / 2 ^ (bit + 1) ≤ result / 2 :=
        Nat.div_le_div_left (Nat.le_self_pow (by omega) 2) (by norm_num)
      omega
    rw [List.length_cons, pow_succ, pow_succ]
    calc 2 ^ rest.length * 2 *
          exp2Loop rest (bit + 1) (fraction - threshold) (result + result / 2 ^ (bit + 1))
        = 2 * (2 ^ rest.length *
            exp2Loop rest (bit + 1) (fraction - threshold) (result + result / 2 ^ (bit + 1))) := by
          ring
      _ ≤ 2 * (3 ^ rest.length * (result + result / 2 ^ (bit + 1))) := Nat.mul_le_mul_left 2 ih
      _ = 3 ^ rest.length * (2 * (result + result / 2 ^ (bit + 1))) := by ring
      _ ≤ 3 ^ rest.length * (3 * result) := Nat.mul_le_mul_left _ half
      _ = 3 ^ rest.length * 3 * result := by ring

/-- Below an exponent of two. -/
lemma chicagoExp2Q16_range {value : ℤ} (positive : 0 < value) (small : value < 0x20000) :
    0x10000 ≤ (chicagoExp2Q16 value).toNat ∧ (chicagoExp2Q16 value).toNat < 0x5300000 := by
  have start : 0x10000 ≤ 0x10000 * 2 ^ (value.natAbs / 0x10000) :=
    Nat.le_mul_of_pos_right _ (by positivity)
  have start_le : 0x10000 * 2 ^ (value.natAbs / 0x10000) ≤ 0x20000 := by
    have exponent : value.natAbs / 0x10000 = 0 ∨ value.natAbs / 0x10000 = 1 := by omega
    rcases exponent with zero | one
    · rw [zero]
      norm_num
    · rw [one]
      norm_num
  unfold chicagoExp2Q16
  dsimp only
  rw [if_pos positive]
  have above := exp2Loop_ge chicagoExp2Thresholds 0 (value.natAbs % 0x10000)
    (0x10000 * 2 ^ (value.natAbs / 0x10000))
  have below := exp2Loop_le chicagoExp2Thresholds 0 (value.natAbs % 0x10000)
    (0x10000 * 2 ^ (value.natAbs / 0x10000))
  rw [show chicagoExp2Thresholds.length = 16 from rfl] at below
  generalize exp2Loop chicagoExp2Thresholds 0 (value.natAbs % 0x10000)
    (0x10000 * 2 ^ (value.natAbs / 0x10000)) = result at *
  rw [UInt32.toNat_ofNat', Nat.mod_eq_of_lt (by norm_num at below; omega)]
  norm_num at below
  omega

/-- Where a round of the refinement is. -/
structure RoundAt (x y scale : ℤ) (candidate : FeatureCandidate) : Prop where
  column : candidate.x.toInt = x
  line : candidate.y.toInt = y
  left : 1 ≤ x
  right : x + 1 < imageWidth
  top : 1 ≤ y
  bottom : y + 1 < imageHeight
  scale : 1 ≤ scale ∧ scale ≤ 6

/-- An offset below half a sample refines a coordinate within half a pixel. -/
lemma refined_range {place offset : ℤ} (low : 1 ≤ place) (high : place < 80)
    (small : |offset| < 0x800) :
    place * 0x100 - 0x80 ≤ (Int16.ofInt (shiftRight (place * 0x1000 + offset) 4)).toInt ∧
      (Int16.ofInt (shiftRight (place * 0x1000 + offset) 4)).toInt < place * 0x100 + 0x80 := by
  rw [abs_lt] at small
  unfold shiftRight
  rw [Int16.toInt_ofInt_of_le] <;> omega

lemma refinedScale_range {scale offset : ℤ} (range : 1 ≤ scale ∧ scale ≤ 6)
    (small : |offset| < 0x800) :
    0x10000 ≤ (chicagoExp2Q16 (quotient ((scale * 0x1000 + offset) * 0x10) 4)).toInt32.toInt ∧
      (chicagoExp2Q16 (quotient ((scale * 0x1000 + offset) * 0x10) 4)).toInt32.toInt <
        0x7000000 := by
  rw [abs_lt] at small
  have whole : quotient ((scale * 0x1000 + offset) * 0x10) 4 = (scale * 0x1000 + offset) * 4 := by
    rw [quotient, Int.tdiv_eq_ediv_of_nonneg (by omega)]
    omega
  have value := @chicagoExp2Q16_range (quotient ((scale * 0x1000 + offset) * 0x10) 4)
    (by omega) (by omega)
  rw [toInt_toInt32 (by omega)]
  omega

lemma acceptRefinement_placed {hessian : Hessian} {gradient : Gradient} {center : Int16}
    {offset0 offset1 offset2 x y scale : ℤ} {candidate accepted : FeatureCandidate}
    {curvature : UInt32} (here : RoundAt x y scale candidate)
    (small : |offset0| < 0x800 ∧ |offset1| < 0x800 ∧ |offset2| < 0x800)
    (ended : acceptRefinement hessian gradient center offset0 offset1 offset2 x y scale candidate =
      (accepted, some curvature)) : accepted.Placed := by
  unfold acceptRefinement at ended
  dsimp only at ended
  split at ended
  · cases ended
  split at ended
  · cases ended
  · obtain ⟨hx, hy, left, right, top, bottom, range⟩ := here
    obtain ⟨rfl, -⟩ := Prod.mk.inj ended
    have column := refined_range left (by simp only [imageWidth] at right; omega) small.1
    have line := refined_range top (by simp only [imageHeight] at bottom; omega) small.2.1
    refine ⟨⟨?_, ?_, ?_, ?_⟩, ?_, ?_, ?_, ?_, refinedScale_range range small.2.2⟩ <;>
      dsimp only <;> omega

/-- Every round starts inside the image and the scales. -/
lemma refineRounds_placed {scales : List Plane} {rounds : ℕ} {x y scale : ℤ}
    {candidate accepted : FeatureCandidate} {curvature : UInt32}
    (here : RoundAt x y scale candidate)
    (ended : refineRounds scales rounds x y scale candidate = (accepted, some curvature)) :
    accepted.Placed := by
  induction rounds generalizing x y scale candidate with
  | zero => cases ended
  | succ rounds ih =>
    unfold refineRounds at ended
    split at ended
    · cases ended
    · dsimp only at ended
      split at ended
      · next small => exact acceptRefinement_placed here small ended
      · split at ended
        · cases ended
        · next inside =>
          simp only [imageWidth, imageHeight, not_or, not_lt] at inside
          refine ih ⟨?_, ?_, inside.2.2.1, ?_, inside.2.2.2.2.1, ?_, inside.1, inside.2.1⟩ ended
          · exact Int32.toInt_ofInt_of_le (by omega) (by omega)
          · exact Int32.toInt_ofInt_of_le (by omega) (by omega)
          · simp only [imageWidth]
            omega
          · simp only [imageHeight]
            omega

/-- The candidate of an extremum before it is refined. -/
def FeatureExtremum.candidate (extremum : FeatureExtremum) : FeatureCandidate where
  x := Int32.ofInt extremum.x
  y := Int32.ofInt extremum.y
  scale := Int32.ofInt extremum.scale
  strength := Int32.ofInt extremum.response
  refinedX := 0
  refinedY := 0
  scaleValue := 0

/-- Whatever the scales hold, a refinement that is accepted ends inside the image. -/
theorem refineExtremum_placed {scales : List Plane} {extremum : FeatureExtremum}
    (inside : extremum.Inside) {accepted : FeatureCandidate} {curvature : UInt32}
    (refined : refineExtremum scales extremum.candidate = (accepted, some curvature)) :
    accepted.Placed := by
  obtain ⟨left, right, top, bottom, low, high, -⟩ := inside
  simp only [imageWidth, imageHeight] at right bottom
  have column : extremum.candidate.x.toInt = extremum.x :=
    Int32.toInt_ofInt_of_le (by omega) (by omega)
  have line : extremum.candidate.y.toInt = extremum.y :=
    Int32.toInt_ofInt_of_le (by omega) (by omega)
  have level : extremum.candidate.scale.toInt = extremum.scale :=
    Int32.toInt_ofInt_of_le (by omega) (by omega)
  refine refineRounds_placed ⟨rfl, rfl, by omega, ?_, by omega, ?_, by omega⟩ refined
  · simp only [imageWidth]
    omega
  · simp only [imageHeight]
    omega

end GoodixSpi.Chicago
