import GoodixSpi.Chicago.Preprocess.Uniform
import Mathlib.Algebra.Order.BigOperators.Group.Finset
import Mathlib.Algebra.BigOperators.Fin

/-! Where a 32-bit result is stored in 16 bits: the normalized gain, the source plane and the
centered plane. Each stage is compared with the quotient or difference over the integers. -/

namespace GoodixSpi.Chicago.Preprocessor

/-- `value * 0x2000 / divisor`, rounded. -/
def quotient (value divisor : Nat) : Nat := (value * 0x2000 + divisor / 2) / divisor

/-- A scaled value fits in 16 bits exactly below eight times the divisor. -/
lemma quotient_lt_iff {value divisor : Nat} (small : value < 65536) (positive : 0 < divisor) :
    quotient value divisor < 65536 ↔ value < 8 * divisor := by
  rw [quotient, Nat.div_lt_iff_lt_mul positive]
  omega

lemma narrow_exact_iff {wide : UInt32} {exact_ : Nat} (same : wide.toNat = exact_) :
    wide.toUInt16.toNat = exact_ ↔ exact_ < 65536 := by
  rw [UInt32.toNat_toUInt16, same]
  omega

/-! ### The normalized gain -/

def mapMean (gain : Plane) : Nat :=
  (∑ pixel : Fin pixels, (gain.get pixel).toNat + pixels / 2) / pixels

/-- Every value the calibration stage stores is its quotient. -/
def StoresNormalized (calibration : List UInt8) (start : Preprocessor) : Prop :=
  mapMean (gainMap calibration) ≠ 0 → ∀ pixel : Fin pixels,
    (start.normalizedGain.get pixel).toNat =
      quotient ((gainMap calibration).get pixel).toNat (mapMean (gainMap calibration))

/-- A 64-bit sum of 16-bit values does not wrap. -/
lemma toNat_sum64 {n : Nat} (few : n ≤ 65536) (value : Fin n → UInt16) :
    ∃ whole, whole = ∑ i, (value i).toNat ∧ whole ≤ n * 65535 ∧
      ((List.finRange n).foldl (fun sum i => sum + (value i).toUInt64) 0).toNat = whole := by
  have bound : ∑ i, (value i).toNat ≤ n * 65535 := by
    have each := Finset.sum_le_card_nsmul Finset.univ (fun i => (value i).toNat) 65535
      fun i _ => Nat.le_of_lt_succ (value i).toNat_lt
    rw [Finset.card_univ, Fintype.card_fin, smul_eq_mul] at each
    exact each
  have total : ((List.finRange n).map fun i => ((value i).toUInt64).toNat).sum =
      ∑ i, (value i).toNat := by
    rw [Fin.sum_univ_def]
    simp only [UInt16.toNat_toUInt64]
  refine ⟨_, rfl, bound, ?_⟩
  rw [CArithmetic.toNat_foldl_add64 _ _ _ (by
    rw [total]
    simp only [UInt64.toNat_ofNat]
    omega), total]
  exact Nat.zero_add _

lemma gainMean_toNat (gain : Plane) : (gainMean gain).toNat = mapMean gain := by
  obtain ⟨whole, same, bound, sum⟩ :=
    toNat_sum64 (by decide) fun pixel : Fin pixels => gain.get pixel
  unfold gainMean mapMean
  dsimp only
  rw [UInt64.toNat_toUInt32, UInt64.toNat_div, UInt64.toNat_add, sum, ← same]
  clear sum same
  simp only [pixels, imageWidth, imageHeight, UInt64.toNat_ofNat', Nat.reducePow, Nat.reduceMul,
    Nat.reduceMod, Nat.reduceDiv] at bound ⊢
  rw [Nat.mod_eq_of_lt (b := 18446744073709551616) (by omega)]
  omega

lemma normalizedValue_toNat (gain : UInt16) (mean : UInt32) :
    (normalizedValue gain mean).toNat = quotient gain.toNat mean.toNat := by
  have narrow := gain.toNat_lt
  have half := mean.toNat_lt
  simp only [normalizedValue, quotient, UInt32.toNat_div, UInt32.toNat_add, UInt32.toNat_mul,
    UInt16.toNat_toUInt32, UInt32.toNat_ofNat, Nat.reducePow, Nat.reduceMod]
  rw [Nat.mod_eq_of_lt (b := 4294967296) (a := gain.toNat * 8192) (by omega),
    Nat.mod_eq_of_lt (b := 4294967296) (by omega)]

lemma normalizedGain_initial {calibration : List UInt8} (imageBase : Plane) (sampleCount : UInt32)
    (mean : gainMean (gainMap calibration) ≠ 0) (pixel : Fin pixels) :
    (initial calibration imageBase sampleCount).normalizeGainMap.normalizedGain.get pixel =
      (normalizedValue ((gainMap calibration).get pixel)
        (gainMean (gainMap calibration))).toUInt16 := by
  rw [normalizeGainMap, initial_gain, if_neg mean]
  dsimp only
  rw [Collect.get_ofFn]

lemma storesNormalized_iff {calibration : List UInt8} {imageBase : Plane} {start : Preprocessor}
    (created : new calibration imageBase = .ok start) :
    StoresNormalized calibration start ↔ mapMean (gainMap calibration) ≠ 0 →
      ∀ pixel : Fin pixels,
        ((gainMap calibration).get pixel).toNat < 8 * mapMean (gainMap calibration) := by
  obtain ⟨-, rfl⟩ := new_eq_ok_iff.mp created
  apply forall_congr'
  intro nonzero
  apply forall_congr'
  intro pixel
  have mean : gainMean (gainMap calibration) ≠ 0 := by
    intro zero
    apply nonzero
    rw [← gainMean_toNat, zero]
    rfl
  rw [normalizedGain_initial imageBase _ mean pixel,
    narrow_exact_iff ((normalizedValue_toNat _ _).trans (by rw [gainMean_toNat]))]
  exact quotient_lt_iff (UInt16.toNat_lt _) (Nat.pos_of_ne_zero nonzero)

/-! ### The source plane -/

/-- The gain that a difference is divided by. -/
def gainOf (applyAdaptiveMultiplier : Bool) (normalizedGain multiplier : UInt16) : Nat :=
  if applyAdaptiveMultiplier then (normalizedGain.toNat * multiplier.toNat + 0x1000) / 0x2000
  else normalizedGain.toNat

def sourceQuotient (difference gain : Nat) : Nat :=
  if gain = 0 then difference * 0x2000 else quotient difference gain

lemma appliedGain_toNat (applied : Bool) (normalizedGain multiplier : UInt16) :
    (appliedGain applied normalizedGain multiplier).toNat =
      gainOf applied normalizedGain multiplier := by
  have product : normalizedGain.toNat * multiplier.toNat ≤ 65535 * 65535 :=
    Nat.mul_le_mul (by have := normalizedGain.toNat_lt; omega)
      (by have := multiplier.toNat_lt; omega)
  unfold appliedGain gainOf
  split
  · simp only [UInt32.toNat_shiftRight, UInt32.toNat_add, UInt32.toNat_mul, UInt16.toNat_toUInt32,
      UInt32.toNat_ofNat, Nat.reducePow, Nat.reduceMod, Nat.shiftRight_eq_div_pow]
    rw [Nat.mod_eq_of_lt (b := 4294967296) (a := normalizedGain.toNat * multiplier.toNat)
      (by omega), Nat.mod_eq_of_lt (b := 4294967296) (by omega)]
  · exact UInt16.toNat_toUInt32 _

lemma clippedDifference_toNat (imageBase current : UInt16) :
    (clippedDifference imageBase current).toNat = imageBase.toNat - current.toNat := by
  unfold clippedDifference
  split
  · next above =>
    have more := UInt16.lt_iff_toNat_lt.mp above
    rw [UInt32.toNat_sub_of_le]
    · rw [UInt16.toNat_toUInt32, UInt16.toNat_toUInt32]
    · rw [UInt32.le_iff_toNat_le, UInt16.toNat_toUInt32, UInt16.toNat_toUInt32]
      omega
  · next below =>
    have less : ¬ current.toNat < imageBase.toNat := fun above =>
      below (UInt16.lt_iff_toNat_lt.mpr above)
    rw [Nat.sub_eq_zero_of_le (by omega)]
    rfl

/-- Every value of the source plane is the quotient of its difference. -/
def StoresSource (p : Preprocessor) (current imageBase : Plane) (applied : Bool)
    (stale : Plane) : Prop :=
  ∀ pixel : Fin pixels,
    ((p.buildSourcePlaneInternal current imageBase applied stale).get pixel).toNat =
      sourceQuotient ((imageBase.get pixel).toNat - (current.get pixel).toNat)
        (gainOf applied (p.normalizedGain.get pixel) (p.adaptiveMultiplier.get pixel))

lemma sourceQuotient_lt_iff {difference : Nat} (small : difference < 4096) (gain : Nat) :
    sourceQuotient difference gain < 65536 ↔ difference < 8 * max 1 gain := by
  unfold sourceQuotient
  split
  · next zero =>
    rw [zero]
    omega
  · next nonzero =>
    rw [quotient_lt_iff (by omega) (Nat.pos_of_ne_zero nonzero), Nat.max_eq_right (by omega)]

lemma sourceValue_toNat {difference gain : UInt32} (small : difference.toNat < 4096)
    (fits : gain.toNat < 0x100000) :
    (sourceValue difference gain).toNat = sourceQuotient difference.toNat gain.toNat := by
  unfold sourceValue sourceQuotient
  by_cases zero : gain = 0
  · rw [if_pos zero, if_pos (by rw [zero]; rfl)]
    simp only [UInt32.toNat_shiftLeft, UInt32.toNat_ofNat, Nat.reducePow, Nat.reduceMod,
      Nat.shiftLeft_eq]
    omega
  · rw [if_neg zero, if_neg (fun none => zero (UInt32.toNat_inj.mp none) : ¬ gain.toNat = 0)]
    simp only [quotient, UInt32.toNat_div, UInt32.toNat_add, UInt32.toNat_mul, UInt32.toNat_ofNat,
      Nat.reducePow, Nat.reduceMod]
    rw [Nat.mod_eq_of_lt (b := 4294967296) (a := difference.toNat * 8192) (by omega),
      Nat.mod_eq_of_lt (b := 4294967296) (by omega)]

lemma gainOf_lt (applied : Bool) (normalizedGain multiplier : UInt16) :
    gainOf applied normalizedGain multiplier < 0x100000 := by
  have product : normalizedGain.toNat * multiplier.toNat ≤ 65535 * 65535 :=
    Nat.mul_le_mul (by have := normalizedGain.toNat_lt; omega)
      (by have := multiplier.toNat_lt; omega)
  have narrow := normalizedGain.toNat_lt
  unfold gainOf
  split <;> omega

variable {self : Preprocessor} {current imageBase : Plane} (applied : Bool) (stale : Plane)

lemma storesSource_iff (valid : self.normalizedGainValid = true)
    (twelve : ∀ pixel : Fin pixels, imageBase.get pixel ≤ 0x0fff) :
    StoresSource self current imageBase applied stale ↔ ∀ pixel : Fin pixels,
      (imageBase.get pixel).toNat - (current.get pixel).toNat <
        8 * max 1 (gainOf applied (self.normalizedGain.get pixel)
          (self.adaptiveMultiplier.get pixel)) := by
  apply forall_congr'
  intro pixel
  have low : (imageBase.get pixel).toNat ≤ 4095 := UInt16.le_iff_toNat_le.mp (twelve pixel)
  have gain := appliedGain_toNat applied (self.normalizedGain.get pixel)
    (self.adaptiveMultiplier.get pixel)
  have difference := clippedDifference_toNat (imageBase.get pixel) (current.get pixel)
  have stored : (self.buildSourcePlaneInternal current imageBase applied stale).get pixel =
      (sourceValue (clippedDifference (imageBase.get pixel) (current.get pixel))
        (appliedGain applied (self.normalizedGain.get pixel)
          (self.adaptiveMultiplier.get pixel))).toUInt16 := by
    rw [buildSourcePlaneInternal, if_pos valid, Collect.get_ofFn]
  have value := @sourceValue_toNat (clippedDifference (imageBase.get pixel) (current.get pixel)) _
    (by rw [difference]; omega) (by rw [gain]; exact gainOf_lt _ _ _)
  rw [difference, gain] at value
  rw [stored, narrow_exact_iff value]
  exact sourceQuotient_lt_iff (by omega) _

/-! ### The centered plane -/

/-- The rounded mean of the enabled pixels around a pixel. -/
def windowMean (source : Plane) (mask : Vector UInt8 pixels) (pixel : Nat) : Nat :=
  let window := enabledWindow mask pixel
  ((window.map fun neighbor => (pixelAt source neighbor).toNat).sum + window.length / 2) /
    window.length

/-- The difference of a pixel from its surroundings, around 3000. -/
def centeredDifference (source : Plane) (mask : Vector UInt8 pixels) (pixel : Fin pixels) : Int :=
  (source.get pixel).toNat - windowMean source mask pixel + 3000

/-- Every enabled pixel of the centered plane holds the value given for it. -/
def StoresCentered (source : Plane) (mask : Vector UInt8 pixels) (value : Fin pixels → Int) :
    Prop :=
  ∀ pixel : Fin pixels, mask.get pixel ≠ 0 →
    (((centerLocalMean source mask).get pixel).toNat : Int) = value pixel

lemma length_enabledWindow (mask : Vector UInt8 pixels) (pixel : Nat) :
    (enabledWindow mask pixel).length ≤ 121 := by
  rw [enabledWindow, List.length_flatMap]
  refine (List.sum_le_card_nsmul _ 11 ?_).trans ?_
  · intro size listed
    obtain ⟨row, -, rfl⟩ := List.mem_map.mp listed
    exact List.length_filterMap_le _ _
  · rw [List.length_map, List.length_range, smul_eq_mul]

/-- The window of an enabled pixel holds the pixel itself, as the source asserts. -/
lemma enabledWindow_self {mask : Vector UInt8 pixels} {pixel : Fin pixels}
    (enabled : mask.get pixel ≠ 0) : (pixel : Nat) ∈ enabledWindow mask pixel := by
  have inside := pixel.isLt
  have listed : mask.toList.getD pixel 0 = mask.get pixel := by
    rw [List.getD_eq_getElem?_getD, List.getElem?_eq_getElem (by simp),
      Option.getD_some, Vector.getElem_toList]
    rfl
  simp only [pixels, imageWidth, imageHeight] at inside
  refine List.mem_flatMap.mpr ⟨5, by decide, List.mem_filterMap.mpr ⟨5, by decide, ?_⟩⟩
  have place : (((pixel / imageWidth : Nat) : Int) + 5 - 5).toNat * imageWidth +
      (((pixel % imageWidth : Nat) : Int) + 5 - 5).toNat = (pixel : Nat) := by
    simp only [imageWidth]
    omega
  dsimp only [Nat.cast_ofNat]
  rw [if_neg (by simp only [imageWidth]; omega), place, listed, if_neg enabled]

lemma localMean_toNat (source : Plane) (mask : Vector UInt8 pixels) (pixel : Nat) :
    (localMean source mask pixel).toNat = windowMean source mask pixel := by
  have few := length_enabledWindow mask pixel
  unfold localMean windowMean
  dsimp only
  generalize enabledWindow mask pixel = window at few ⊢
  have bound := List.sum_le_card_nsmul (window.map fun neighbor => (pixelAt source neighbor).toNat)
    65535 (List.forall_mem_map.mpr fun neighbor _ => Nat.le_of_lt_succ (UInt16.toNat_lt _))
  rw [List.length_map, smul_eq_mul] at bound
  have sum := CArithmetic.toNat_foldl_add32 window
    (fun neighbor => (pixelAt source neighbor).toUInt32) 0
    (by simp only [UInt16.toNat_toUInt32, UInt32.toNat_ofNat]; omega)
  simp only [UInt16.toNat_toUInt32] at sum
  rw [UInt32.toNat_div, UInt32.toNat_add, sum, UInt32.toNat_div]
  generalize (window.map fun neighbor => (pixelAt source neighbor).toNat).sum = total at bound ⊢
  simp only [UInt32.toNat_ofNat, UInt32.toNat_ofNat', Nat.reducePow, Nat.reduceMod, Nat.zero_add]
  rw [Nat.mod_eq_of_lt (a := window.length) (b := 4294967296) (by omega),
    Nat.mod_eq_of_lt (b := 4294967296) (by omega)]

lemma centeredValue_eq (source : Plane) (mask : Vector UInt8 pixels) (pixel : Fin pixels) :
    centeredValue source mask pixel = centeredDifference source mask pixel := by
  rw [centeredValue, centeredDifference, localMean_toNat, pixelAt_eq _ pixel.isLt]
  rfl

lemma centered_stored {source : Plane} {mask : Vector UInt8 pixels} {pixel : Fin pixels}
    (enabled : mask.get pixel ≠ 0) : ((centerLocalMean source mask).get pixel).toNat =
      (centeredDifference source mask pixel).toNat % 65536 := by
  rw [centerLocalMean, Collect.get_ofFn]
  dsimp only
  rw [if_neg enabled, centeredValue_eq]
  split
  · next negative =>
    rw [Int.toNat_of_nonpos (Int.le_of_lt negative)]
    rfl
  · exact UInt16.toNat_ofNat' 

lemma storesCentered_iff (source : Plane) (mask : Vector UInt8 pixels) :
    StoresCentered source mask (centeredDifference source mask) ↔
      ∀ pixel : Fin pixels, mask.get pixel ≠ 0 →
        windowMean source mask pixel ≤ (source.get pixel).toNat + 3000 ∧
          (source.get pixel).toNat + 3000 < 65536 + windowMean source mask pixel := by
  apply forall_congr'
  intro pixel
  apply forall_congr'
  intro enabled
  rw [centered_stored enabled, centeredDifference]
  omega

/-- The same where a negative difference is stored as zero. -/
lemma storesCentered_floored_iff (source : Plane) (mask : Vector UInt8 pixels) :
    StoresCentered source mask (fun pixel => max 0 (centeredDifference source mask pixel)) ↔
      ∀ pixel : Fin pixels, mask.get pixel ≠ 0 →
        (source.get pixel).toNat + 3000 < 65536 + windowMean source mask pixel := by
  apply forall_congr'
  intro pixel
  apply forall_congr'
  intro enabled
  rw [centered_stored enabled]
  dsimp only
  rw [centeredDifference]
  omega

/-- Nothing is truncated exactly where no gain is eight times the mean gain, no difference
eight times its gain, and no pixel 62536 or more above its surroundings. -/
theorem planes_narrow_exactly {calibration : List UInt8} {base : Plane} {start : Preprocessor}
    (created : new calibration base = .ok start) :
    (StoresNormalized calibration start ↔ mapMean (gainMap calibration) ≠ 0 →
      ∀ pixel : Fin pixels,
        ((gainMap calibration).get pixel).toNat < 8 * mapMean (gainMap calibration)) ∧
    (∀ (self : Preprocessor) (current imageBase : Plane) (applied : Bool) (stale : Plane),
      self.normalizedGainValid = true → (∀ pixel : Fin pixels, imageBase.get pixel ≤ 0x0fff) →
      (StoresSource self current imageBase applied stale ↔ ∀ pixel : Fin pixels,
        (imageBase.get pixel).toNat - (current.get pixel).toNat <
          8 * max 1 (gainOf applied (self.normalizedGain.get pixel)
            (self.adaptiveMultiplier.get pixel)))) ∧
    ∀ (source : Plane) (mask : Vector UInt8 pixels),
      (StoresCentered source mask (centeredDifference source mask) ↔
        ∀ pixel : Fin pixels, mask.get pixel ≠ 0 →
          windowMean source mask pixel ≤ (source.get pixel).toNat + 3000 ∧
            (source.get pixel).toNat + 3000 < 65536 + windowMean source mask pixel) ∧
      (StoresCentered source mask (fun pixel => max 0 (centeredDifference source mask pixel)) ↔
        ∀ pixel : Fin pixels, mask.get pixel ≠ 0 →
          (source.get pixel).toNat + 3000 < 65536 + windowMean source mask pixel) := by
  refine ⟨storesNormalized_iff created, ?_, ?_⟩
  · intro self current imageBase applied stale valid twelve
    exact storesSource_iff applied stale valid twelve
  · intro source mask
    exact ⟨storesCentered_iff source mask, storesCentered_floored_iff source mask⟩

theorem planes_narrow_exactly_plain : ∃ start,
    new (plainPayload 400) plainBase = .ok start ∧ StoresNormalized (plainPayload 400) start := by
  obtain ⟨start, created, -⟩ := uniform_plain
  refine ⟨start, created, (planes_narrow_exactly created).1.mpr fun _ pixel => ?_⟩
  rw [← gainMean_toNat, plainPayload, gainMap_assemble, gainMean_replicate, Collect.get_replicate]
  decide

/-- One pixel of a gain map holds all of its gain. -/
def spikeGain : Plane := Vector.ofFn fun pixel => if (pixel : Nat) = 0 then 65535 else 0

lemma mapMean_spikeGain : mapMean spikeGain = 13 := by
  have size := Calibration.offsets.1
  have sum : ∑ pixel : Fin pixels, (spikeGain.get pixel).toNat = 65535 := by
    rw [Finset.sum_eq_single (⟨0, by omega⟩ : Fin pixels)]
    · rw [spikeGain, Collect.get_ofFn, if_pos rfl]
      rfl
    · intro pixel _ other
      rw [spikeGain, Collect.get_ofFn,
        if_neg fun zero => other (Fin.ext zero)]
      rfl
    · exact fun absent => absurd (Finset.mem_univ _) absent
  rw [mapMean, sum, size]

/-- The spike is stored as a truncated quotient. -/
theorem spike_truncated : ∃ start,
    new (Calibration.assemble spikeGain plainBase 0) plainBase = .ok start ∧
    ¬ StoresNormalized (Calibration.assemble spikeGain plainBase 0) start := by
  obtain ⟨start, created, -, -⟩ := new_assemble spikeGain plainBase plainBase 0
  refine ⟨start, created, fun stores => ?_⟩
  have size := Calibration.offsets.1
  have below := (storesNormalized_iff created).mp stores
  rw [gainMap_assemble, mapMean_spikeGain] at below
  have spike := below (by decide) ⟨0, by omega⟩
  rw [spikeGain, Collect.get_ofFn, if_pos rfl] at spike
  exact absurd spike (by decide)

end GoodixSpi.Chicago.Preprocessor
