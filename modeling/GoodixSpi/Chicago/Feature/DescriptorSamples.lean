import GoodixSpi.Lib.Deposits
import GoodixSpi.Lib.Reinterpret
import GoodixSpi.Chicago.Feature.Descriptor
import GoodixSpi.Chicago.Feature.Gradients

/-! The histogram of a descriptor. Every pixel is divided among eight entries; all of them are
inside the histogram, and none of its words wraps. -/

namespace GoodixSpi.Chicago

open CArithmetic Reinterpret Deposits

/-! ### One pixel -/

lemma toNat_shiftRight (value : UInt32) {bits : ℕ} (inside : bits < 32) :
    (value >>> UInt32.ofNat bits).toNat = value.toNat / 2 ^ bits := by
  rw [UInt32.toNat_shiftRight, Nat.shiftRight_eq_div_pow, UInt32.toNat_ofNat',
    Nat.mod_eq_of_lt (show bits < 2 ^ 32 by omega), Nat.mod_eq_of_lt inside]

/-- A denominator of at least 0x200, whatever the terms of the approximation are. -/
lemma roundedRatio_le {product cubic linear : UInt32} (cubicSmall : cubic.toNat < 2 ^ 17)
    (linearSmall : linear.toNat < 2 ^ 25) {approximation half : UInt32}
    (eq : approximation = product / 0xc00 + 0x200 + cubic + linear)
    (halved : half = approximation >>> 1) :
    ((half + 0x40000) / approximation).toNat ≤ 0x200 := by
  have size := product.toNat_lt
  have sum : approximation.toNat = product.toNat / 0xc00 + 0x200 + cubic.toNat + linear.toNat := by
    rw [eq]
    simp only [UInt32.toNat_add, UInt32.toNat_div, UInt32.reduceToNat]
    omega
  have halfSize : half.toNat = approximation.toNat / 2 := by
    rw [halved]
    exact toNat_shiftRight approximation (show 1 < 32 by omega)
  have numerator : (half + 0x40000).toNat = half.toNat + 0x40000 := by
    simp only [UInt32.toNat_add, UInt32.reduceToNat]
    omega
  rw [UInt32.toNat_div, numerator]
  refine Nat.lt_succ_iff.mp ((Nat.div_lt_iff_lt_mul (by omega)).mpr ?_)
  omega

/-- No weight is above the one in the middle. -/
lemma orientationWeight_le (coefficient : UInt32) (x y : ℕ) :
    (orientationWeight coefficient x y).toNat ≤ 0x200 := by
  unfold orientationWeight
  dsimp only
  split
  · refine roundedRatio_le ?_ ?_ rfl rfl
    · exact (toNat_shiftRight _ (show 15 < 32 by omega)).trans_lt
        (Nat.div_lt_of_lt_mul (UInt32.toNat_lt _))
    · exact (toNat_shiftRight _ (show 7 < 32 by omega)).trans_lt
        (Nat.div_lt_of_lt_mul (UInt32.toNat_lt _))
  · exact Nat.zero_le _

/-- Two bins share what one cell gets. -/
lemma total_cellShares (row column angle : ℤ) {value : UInt32} (small : value.toNat ≤ 2 ^ 18) :
    total CellShare.amount (cellShares row column angle value) ≤ value.toNat / 32 := by
  have fraction : (UInt32.ofInt (angle - shiftRight angle 12 * 0x1000)).toNat < 0x1000 := by
    unfold shiftRight
    rw [toNat_ofInt32 (by omega) (by omega)]
    omega
  unfold cellShares
  dsimp only
  generalize UInt32.ofInt (angle - shiftRight angle 12 * 0x1000) = part at *
  have bound : value.toNat * part.toNat ≤ value.toNat * 0x1000 :=
    Nat.mul_le_mul_left _ fraction.le
  have product : (value * part).toNat = value.toNat * part.toNat := by
    rw [UInt32.toNat_mul, Nat.mod_eq_of_lt]
    omega
  generalize value * part = orientationPart at *
  have whole : (orientationPart >>> 12).toNat = orientationPart.toNat / 2 ^ 12 :=
    toNat_shiftRight _ (show 12 < 32 by omega)
  have rest : (value - orientationPart >>> 12).toNat =
      value.toNat - orientationPart.toNat / 2 ^ 12 := by
    rw [UInt32.toNat_sub_of_le, whole]
    rw [UInt32.le_iff_toNat_le, whole]
    omega
  have first : ((value - orientationPart >>> 12) >>> 5).toNat =
      (value.toNat - orientationPart.toNat / 2 ^ 12) / 2 ^ 5 := by
    rw [← rest]
    exact toNat_shiftRight _ (show 5 < 32 by omega)
  have second : (orientationPart >>> 17).toNat = orientationPart.toNat / 2 ^ 17 :=
    toNat_shiftRight _ (show 17 < 32 by omega)
  simp only [total, List.map_cons, List.map_nil, List.sum_cons, List.sum_nil, first, second]
  omega

/-- An interpolated part is no more than the whole. -/
lemma toNat_part {fraction whole : UInt32} (fractionSmall : fraction.toNat < 0x200)
    (wholeSmall : whole.toNat ≤ 2 ^ 18) :
    ((fraction * whole) >>> 9).toNat ≤ whole.toNat := by
  have bound : fraction.toNat * whole.toNat ≤ 0x200 * whole.toNat :=
    Nat.mul_le_mul_right _ fractionSmall.le
  have product : (fraction * whole).toNat = fraction.toNat * whole.toNat := by
    rw [UInt32.toNat_mul, Nat.mod_eq_of_lt]
    omega
  rw [show ((fraction * whole) >>> 9).toNat = (fraction * whole).toNat / 2 ^ 9 from
    toNat_shiftRight _ (show 9 < 32 by omega), product]
  omega

/-- A sample of at most `2 ^ 27` gives its cells `2 ^ 13` at most. -/
lemma total_sampleShares (x y angle : ℤ) {weight : Int32} (nonneg : 0 ≤ weight.toInt)
    (small : weight.toInt ≤ 2 ^ 27) :
    total CellShare.amount (sampleShares x y angle weight) ≤ 2 ^ 13 := by
  have scaled : (UInt32.ofInt (shiftRight weight.toInt 9)).toNat ≤ 2 ^ 18 := by
    unfold shiftRight
    rw [toNat_ofInt32 (by omega) (by omega)]
    omega
  have fraction (coordinate : ℤ) :
      (UInt32.ofInt (coordinate - shiftRight coordinate 9 * 0x200)).toNat < 0x200 := by
    unfold shiftRight
    rw [toNat_ofInt32 (by omega) (by omega)]
    omega
  have xFraction := fraction x
  have yFraction := fraction y
  unfold sampleShares
  dsimp only
  generalize UInt32.ofInt (shiftRight weight.toInt 9) = scaledWeight at *
  generalize UInt32.ofInt (x - shiftRight x 9 * 0x200) = right at *
  generalize UInt32.ofInt (y - shiftRight y 9 * 0x200) = up at *
  have upper := toNat_part yFraction scaled
  generalize (up * scaledWeight) >>> 9 = upperY at *
  have lower : (scaledWeight - upperY).toNat = scaledWeight.toNat - upperY.toNat :=
    UInt32.toNat_sub_of_le _ _ (UInt32.le_iff_toNat_le.mpr upper)
  have upperRight := toNat_part xFraction (upper.trans scaled)
  have lowerRight := toNat_part xFraction (show (scaledWeight - upperY).toNat ≤ 2 ^ 18 by omega)
  generalize scaledWeight - upperY = lowerY at *
  generalize (right * upperY) >>> 9 = upperRightPart at *
  generalize (right * lowerY) >>> 9 = lowerRightPart at *
  have upperLeft : (upperY - upperRightPart).toNat = upperY.toNat - upperRightPart.toNat :=
    UInt32.toNat_sub_of_le _ _ (UInt32.le_iff_toNat_le.mpr upperRight)
  have lowerLeft : (lowerY - lowerRightPart).toNat = lowerY.toNat - lowerRightPart.toNat :=
    UInt32.toNat_sub_of_le _ _ (UInt32.le_iff_toNat_le.mpr lowerRight)
  rw [total_append, total_append, total_append]
  have first := total_cellShares (shiftRight y 9 + 1) (shiftRight x 9 + 1) angle
    (show (lowerY - lowerRightPart).toNat ≤ 2 ^ 18 by omega)
  have second := total_cellShares (shiftRight y 9 + 1) (shiftRight x 9 + 2) angle
    (show lowerRightPart.toNat ≤ 2 ^ 18 by omega)
  have third := total_cellShares (shiftRight y 9 + 2) (shiftRight x 9 + 1) angle
    (show (upperY - upperRightPart).toNat ≤ 2 ^ 18 by omega)
  have fourth := total_cellShares (shiftRight y 9 + 2) (shiftRight x 9 + 2) angle
    (show upperRightPart.toNat ≤ 2 ^ 18 by omega)
  omega

/-- Inside `accumulator[6][6][8]`. -/
structure CellShare.Inside (share : CellShare) : Prop where
  row : 0 ≤ share.row ∧ share.row < 6
  column : 0 ≤ share.column ∧ share.column < 6
  bin : share.bin < 8

lemma CellShare.Inside.index_lt {share : CellShare} (inside : share.Inside) :
    share.index < 288 := by
  obtain ⟨row, column, bin⟩ := inside
  unfold CellShare.index
  omega

lemma cellShares_inside {row column : ℤ} (rows : 0 ≤ row ∧ row < 6)
    (columns : 0 ≤ column ∧ column < 6) (angle : ℤ) (value : UInt32) :
    ∀ share ∈ cellShares row column angle value, share.Inside := by
  intro share listed
  unfold cellShares at listed
  simp only [List.mem_cons, List.not_mem_nil, or_false] at listed
  rcases listed with rfl | rfl
  · exact ⟨rows, columns, by dsimp only; omega⟩
  · exact ⟨rows, columns, Nat.mod_lt _ (by decide)⟩

lemma sampleShares_inside {x y : ℤ} (xRange : -0x200 ≤ x ∧ x < 0x800)
    (yRange : -0x200 ≤ y ∧ y < 0x800) (angle : ℤ) (weight : Int32) :
    ∀ share ∈ sampleShares x y angle weight, share.Inside := by
  intro share listed
  unfold sampleShares at listed
  have xBin : -1 ≤ shiftRight x 9 ∧ shiftRight x 9 ≤ 3 := by
    unfold shiftRight
    omega
  have yBin : -1 ≤ shiftRight y 9 ∧ shiftRight y 9 ≤ 3 := by
    unfold shiftRight
    omega
  simp only [List.mem_append] at listed
  rcases listed with ((here | here) | here) | here
  · exact cellShares_inside (by omega) (by omega) _ _ share here
  · exact cellShares_inside (by omega) (by omega) _ _ share here
  · exact cellShares_inside (by omega) (by omega) _ _ share here
  · exact cellShares_inside (by omega) (by omega) _ _ share here

/-! ### All pixels -/

/-- Gradients no longer than the gradient stage makes them. -/
def BoundedMagnitude (magnitude : MagnitudePlane) : Prop :=
  ∀ pixel, (magnitudeAt magnitude pixel).toNat ≤ 0x3ffff

lemma buildGradients_bounded (input : Vector ℤ pixels) :
    BoundedMagnitude (buildGradients input).1 := by
  intro pixel
  unfold magnitudeAt buildGradients
  dsimp only
  rw [List.getD_eq_getElem?_getD]
  cases found : (planeOf _).toList[pixel]? with
  | none => exact Nat.zero_le _
  | some value =>
    have listed := List.mem_of_getElem? found
    rw [planeOf, Vector.mem_toList_iff, Vector.mem_ofFn] at listed
    obtain ⟨index, rfl⟩ := listed
    rw [Option.getD_some]
    split
    · exact Nat.zero_le _
    · change UInt32.toNat (if _ then _ else _) ≤ _
      split
      · next within => exact UInt32.le_iff_toNat_le.mp within
      · exact le_rfl

lemma length_loopSteps_le {low high : ℤ} {count : ℕ} (small : high - low + 1 ≤ count) :
    (loopSteps low high).length ≤ count := by
  rw [loopSteps, List.length_map, List.length_range]
  omega

/-- The window has at most 33 lines of 33 pixels. -/
lemma length_descriptorWindow_le (centerX centerY : ℤ) :
    (descriptorWindow centerX centerY).length ≤ 1089 := by
  have radius : descriptorRadius = 16 := by decide
  unfold descriptorWindow
  dsimp only
  rw [radius, List.length_flatMap]
  have lines := @length_loopSteps_le (max (-16) (1 - centerY))
    (min 16 (imageHeight - centerY - 2)) 33 (by omega)
  have columns := @length_loopSteps_le (max (-16) (1 - centerX))
    (min 16 (imageWidth - centerX - 2)) 33 (by omega)
  simp only [List.length_map, List.map_const', List.sum_replicate_nat]
  exact Nat.mul_le_mul lines columns

section Samples

variable {magnitude : MagnitudePlane} (orientation : OrientationPlane) (centerX centerY : ℤ)
  (featureOrientation : Int16)

lemma total_pixelShares (bounded : BoundedMagnitude magnitude) (delta : ℤ × ℤ) :
    total CellShare.amount
      (pixelShares magnitude orientation centerX centerY featureOrientation delta) ≤ 2 ^ 13 := by
  unfold pixelShares
  dsimp only
  split
  · exact Nat.zero_le _
  · have long := bounded ((centerY + delta.2) * imageWidth + centerX + delta.1).toNat
    have weight := orientationWeight_le descriptorCoefficient delta.1.natAbs delta.2.natAbs
    generalize magnitudeAt magnitude
      ((centerY + delta.2) * imageWidth + centerX + delta.1).toNat = length at *
    generalize orientationWeight descriptorCoefficient delta.1.natAbs delta.2.natAbs = factor at *
    have bound := Nat.mul_le_mul long weight
    have product : (length * factor).toNat = length.toNat * factor.toNat := by
      rw [UInt32.toNat_mul, Nat.mod_eq_of_lt]
      omega
    have value : (length * factor).toInt32.toInt = (length.toNat * factor.toNat : ℕ) := by
      rw [toInt_toInt32 (by omega), product]
    exact total_sampleShares _ _ _ (by omega) (by omega)

/-- One window holds little enough for a word. -/
lemma total_descriptorShares (bounded : BoundedMagnitude magnitude) :
    total CellShare.amount
      (descriptorShares magnitude orientation centerX centerY featureOrientation) ≤
        1089 * 2 ^ 13 := by
  refine (total_flatMap_le _ fun delta _ =>
    total_pixelShares orientation centerX centerY featureOrientation bounded delta).trans ?_
  exact Nat.mul_le_mul_right _ (length_descriptorWindow_le centerX centerY)

lemma descriptorShares_inside {share : CellShare}
    (listed : share ∈ descriptorShares magnitude orientation centerX centerY featureOrientation) :
    share.Inside := by
  obtain ⟨delta, -, here⟩ := List.mem_flatMap.mp listed
  unfold pixelShares at here
  dsimp only at here
  split at here
  · exact absurd here List.not_mem_nil
  · next near =>
    rw [not_or, not_le, not_le, abs_lt, abs_lt] at near
    exact sampleShares_inside (by omega) (by omega) _ _ share here

/-- The place in the histogram of a sample of the descriptor. -/
def samplePlace (index : ℕ) : ℕ := ((index / 32 + 1) * 6 + 1) * 8 + index % 32

lemma samplePlace_injective {i j : ℕ} (same : samplePlace i = samplePlace j) : i = j := by
  unfold samplePlace at same
  omega

/-- What the shares of a sample add up to. -/
def sampleTotal (magnitude : MagnitudePlane) (index : ℕ) : ℕ :=
  held CellShare.index CellShare.amount (samplePlace index)
    (descriptorShares magnitude orientation centerX centerY featureOrientation)

lemma flatMap_range_map {α : Type} (count width : ℕ) (f : ℕ → α) :
    ((List.range count).flatMap fun i => (List.range width).map fun j => f (i * width + j)) =
      (List.range (count * width)).map f := by
  induction count with
  | zero => rw [Nat.zero_mul]; rfl
  | succ count ih =>
    rw [List.range_succ, List.flatMap_append, ih, Nat.succ_mul, List.range_add, List.map_append,
      List.map_map, List.flatMap_singleton]
    rfl

lemma middleCells (accumulator : List UInt32) :
    ((List.range 4).flatMap fun y => (List.range 4).flatMap fun x => (List.range 8).map fun bin =>
      (accumulator.getD (((y + 1) * 6 + (x + 1)) * 8 + bin) 0).toInt32) =
      (List.range 128).map fun index => (accumulator.getD (samplePlace index) 0).toInt32 := by
  have line (y : ℕ) : ((List.range 4).flatMap fun x => (List.range 8).map fun bin =>
      (accumulator.getD (((y + 1) * 6 + (x + 1)) * 8 + bin) 0).toInt32) =
      (List.range 32).map fun k => (accumulator.getD (((y + 1) * 6 + 1) * 8 + k) 0).toInt32 := by
    rw [← flatMap_range_map 4 8]
    refine List.flatMap_congr fun x _ => List.map_congr_left fun bin _ => ?_
    rw [show ((y + 1) * 6 + (x + 1)) * 8 + bin = ((y + 1) * 6 + 1) * 8 + (x * 8 + bin) by ring]
  rw [← flatMap_range_map 4 32]
  refine List.flatMap_congr fun y _ => (line y).trans (List.map_congr_left fun k listed => ?_)
  have inside := List.mem_range.mp listed
  rw [samplePlace, show (y * 32 + k) / 32 = y by omega, show (y * 32 + k) % 32 = k by omega]

@[simp] lemma length_buildDescriptorSamples : (buildDescriptorSamples magnitude orientation centerX
    centerY featureOrientation).length = 128 := by
  unfold buildDescriptorSamples
  rw [middleCells, List.length_map, List.length_range]

/-- A sample is the sum of its shares. -/
lemma toInt_buildDescriptorSamples (bounded : BoundedMagnitude magnitude) {index : ℕ}
    (inside : index < 128) :
    ((buildDescriptorSamples magnitude orientation centerX centerY featureOrientation).getD
      index 0).toInt =
      sampleTotal orientation centerX centerY featureOrientation magnitude index := by
  have all := total_descriptorShares orientation centerX centerY featureOrientation bounded
  have exact := @toNat_getD_exact _ CellShare.index CellShare.amount
    (descriptorShares magnitude orientation centerX centerY featureOrientation)
    (all.trans_lt (by norm_num)) 288 (samplePlace index) (by unfold samplePlace; omega)
  have small := @held_le_total _ CellShare.index CellShare.amount (samplePlace index)
    (descriptorShares magnitude orientation centerX centerY featureOrientation)
  have same : (descriptorAccumulator magnitude orientation centerX centerY
      featureOrientation).getD (samplePlace index) 0 =
      ((descriptorShares magnitude orientation centerX centerY featureOrientation).foldl
        (deposit CellShare.index CellShare.amount) (List.replicate 288 0)).getD
          (samplePlace index) 0 := rfl
  unfold buildDescriptorSamples
  dsimp only
  rw [middleCells, List.getD_eq_getElem?_getD, List.getElem?_map, List.getElem?_range inside,
    Option.map_some, Option.getD_some, same, toInt_toInt32 (by rw [exact]; omega), exact]
  rfl

/-- Different samples have different shares. -/
lemma sum_sampleTotal_le (bounded : BoundedMagnitude magnitude) {indices : List ℕ}
    (distinct : indices.Nodup) :
    (indices.map (sampleTotal orientation centerX centerY featureOrientation magnitude)).sum ≤
      1089 * 2 ^ 13 := by
  have places : (indices.map samplePlace).Nodup :=
    distinct.map fun i j same => samplePlace_injective same
  have all := @sum_held_le _ CellShare.index CellShare.amount _ places
    (descriptorShares magnitude orientation centerX centerY featureOrientation)
  rw [List.map_map] at all
  exact all.trans (total_descriptorShares orientation centerX centerY featureOrientation bounded)

end Samples

lemma descriptorWindow_inside {centerX centerY : ℤ} {delta : ℤ × ℤ}
    (listed : delta ∈ descriptorWindow centerX centerY) :
    (1 ≤ centerX + delta.1 ∧ centerX + delta.1 + 1 < imageWidth) ∧
      1 ≤ centerY + delta.2 ∧ centerY + delta.2 + 1 < imageHeight := by
  unfold descriptorWindow at listed
  obtain ⟨deltaY, lines, columns⟩ := List.mem_flatMap.mp listed
  obtain ⟨deltaX, inside, rfl⟩ := List.mem_map.mp columns
  have vertical := mem_loopSteps lines
  have horizontal := mem_loopSteps inside
  have width : (imageWidth : ℤ) = 80 := rfl
  have height : (imageHeight : ℤ) = 64 := rfl
  omega

end GoodixSpi.Chicago
