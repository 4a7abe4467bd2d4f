import GoodixSpi.Lib.CArithmetic
import GoodixSpi.Lib.Reachability
import GoodixSpi.Chicago.Preprocess.State
import Mathlib.Algebra.BigOperators.Group.List.Basic
import Mathlib.Algebra.Group.Action.Defs

/-! Uniform frames: on a sensor that reads one value everywhere, a capture leaves every
plane of the preprocessor uniform, so that a run can be followed on single numbers. -/

namespace GoodixSpi.Chicago.Preprocessor

/-- The rounded mean of a uniform plane. -/
lemma planeMean_const {value : UInt32} (small : value.toNat < 0x80000) :
    (planeSum (fun _ => value) + UInt32.ofNat (pixels / 2)) / UInt32.ofNat pixels = value := by
  have total : ((List.finRange pixels).map fun _ : Fin pixels => value.toNat).sum =
      5120 * value.toNat := by
    rw [List.map_const', List.length_finRange, List.sum_replicate, smul_eq_mul, pixels,
      imageWidth, imageHeight]
  have sum := CArithmetic.toNat_foldl_add32 (List.finRange pixels) (fun _ => value) 0
    (by rw [total]; simp only [UInt32.toNat_ofNat]; omega)
  rw [total] at sum
  apply UInt32.toNat_inj.mp
  rw [UInt32.toNat_div, UInt32.toNat_add, planeSum, sum]
  simp only [UInt32.toNat_ofNat, pixels, imageWidth, imageHeight, UInt32.toNat_ofNat',
    Nat.reducePow, Nat.reduceMul, Nat.reduceMod, Nat.reduceDiv]
  omega

/-- More than half of a uniform frame passes the input check, or none of it does. -/
lemma mode24_replicate {value : UInt16} (dark : value > 50) (bright : value < 4050) :
    mode24RawInputIsValid (Vector.replicate pixels value) = true := by
  have all : ((List.range' 2 (imageHeight - 4)).flatMap fun y =>
      (List.range' 2 (imageWidth - 4)).map fun x =>
        pixelAt (Vector.replicate pixels value) (y * imageWidth + x)).countP
          (fun value => value > 50 && value < 4050) =
      ((List.range' 2 (imageHeight - 4)).flatMap fun y =>
        (List.range' 2 (imageWidth - 4)).map fun x =>
          pixelAt (Vector.replicate pixels value) (y * imageWidth + x)).length := by
    rw [List.countP_eq_length]
    intro sample listed
    obtain ⟨y, row, inner⟩ := List.mem_flatMap.mp listed
    obtain ⟨x, column, rfl⟩ := List.mem_map.mp inner
    have below := List.mem_range'.mp row
    have across := List.mem_range'.mp column
    simp only [imageHeight, imageWidth] at below across
    rw [pixelAt_replicate _ (by simp only [pixels, imageWidth, imageHeight]; omega)]
    simp [dark, bright]
  have size : ((List.range' 2 (imageHeight - 4)).flatMap fun y =>
      (List.range' 2 (imageWidth - 4)).map fun x =>
        pixelAt (Vector.replicate pixels value) (y * imageWidth + x)).length = 60 * 76 := by
    simp only [List.length_flatMap, List.length_map, List.length_range']
    rfl
  unfold mode24RawInputIsValid
  dsimp only
  rw [all, size]
  decide

/-- A frame that reads 1000 everywhere. -/
def plainCapture : Capture := ⟨Vector.replicate pixels 1000, Vector.replicate pixels 0⟩

lemma plainCapture_prepared : prepareFrame plainCapture.raw = Vector.replicate pixels 1000 :=
  prepareFrame_replicate 1000 (by decide)

lemma plainCapture_valid : mode24RawInputIsValid (prepareFrame plainCapture.raw) = true := by
  rw [plainCapture_prepared]
  exact mode24_replicate (by decide) (by decide)

/-- The image base that a plain capture differs from by the calibrated 2000. -/
def plainBase : Plane := Vector.replicate pixels 3000

lemma plainBase_prepared : prepareFrame plainBase = Vector.replicate pixels 3000 :=
  prepareFrame_replicate 3000 (by decide)

variable {self : Preprocessor} {weight : Weight}

/-- Every pixel of a plain capture offers the value 2000 to its average. -/
lemma updateTemporalGain_plain : self.updateTemporalGain weight (Vector.replicate pixels 1000)
    (Vector.replicate pixels 3000) =
      (Collect.collect fun pixel => temporalAverage (self.temporalGainAverage.get pixel)
        self.temporalSampleCount (self.temporalSampleCount + 1) 2000).bind
        (self.applyTemporalAverages weight) := by
  have candidate : ∀ pixel : Fin pixels, clippedDifference
      ((Vector.replicate pixels (3000 : UInt16)).get pixel)
      ((Vector.replicate pixels (1000 : UInt16)).get pixel) = 2000 := by
    intro pixel
    rw [Collect.get_replicate, Collect.get_replicate]
    decide
  have mean : differenceMean (fun _ => 2000) = 2000 := by
    unfold differenceMean
    rw [planeMean_const (by decide)]
    decide
  have value : temporalValue 2000 (temporalScale 2000) = 2000 := by decide
  unfold updateTemporalGain
  simp only [candidate, mean, value]

/-! ### A run of plain captures -/

/-- A preprocessor at unity gain whose temporal average has all its samples. -/
structure Uniform (p : Preprocessor) (multiplier : UInt16) (count : UInt32) : Prop where
  imageBase : p.imageBase = plainBase
  samples : p.temporalSampleCount = 400
  average : ∃ average : UInt16, 1 ≤ average ∧
    p.temporalGainAverage = Vector.replicate pixels average
  normalizedGain : p.normalizedGain = Vector.replicate pixels 0x2000
  valid : p.normalizedGainValid = true
  multiplier : p.adaptiveMultiplier = Vector.replicate pixels multiplier
  count : p.adaptiveSampleCount = count

variable {multiplier : UInt16} {count : UInt32}

lemma Uniform.source (h : self.Uniform multiplier count) :
    self.sourcePlane plainCapture = Vector.replicate pixels 2000 := by
  rw [sourcePlane, buildSourcePlaneInternal, if_pos h.valid, plainCapture_prepared, h.imageBase,
    plainBase_prepared, h.normalizedGain]
  apply ofFn_const
  intro pixel
  rw [Collect.get_replicate, Collect.get_replicate, Collect.get_replicate, appliedGain,
    if_neg (by decide)]
  decide

lemma Uniform.adapt (h : self.Uniform multiplier count) :
    (self.updateAdaptiveMultiplier (Vector.replicate pixels 2000)).Uniform
      (averagedMultiplier multiplier count (min (count + 1) 30) 0x2000) (min (count + 1) 30) where
  imageBase := by rw [updateAdaptiveMultiplier_imageBase, h.imageBase]
  samples := by rw [updateAdaptiveMultiplier_temporalSampleCount, h.samples]
  average := by
    rw [updateAdaptiveMultiplier_temporalGainAverage]
    exact h.average
  normalizedGain := by rw [updateAdaptiveMultiplier_normalizedGain, h.normalizedGain]
  valid := by rw [updateAdaptiveMultiplier_normalizedGainValid, h.valid]
  multiplier := by
    have flat : adaptiveFiltered (Vector.replicate pixels 2000) = Vector.replicate pixels 2000 :=
      separableFilter_replicate (by decide)
    rw [updateAdaptiveMultiplier, flat]
    apply ofFn_const
    intro pixel
    rw [Collect.get_replicate, h.multiplier, Collect.get_replicate, newAdaptiveCount, h.count]
    rw [if_pos (by decide), show adaptiveRatio 2000 2000 = 0x2000 by decide]
  count := by rw [updateAdaptiveMultiplier_adaptiveSampleCount, newAdaptiveCount, h.count]

/-- A mean over itself is unity. -/
lemma normalizedValue_self (mean : UInt16) (positive : 1 ≤ mean) :
    (normalizedValue mean mean.toUInt32).toUInt16 = 0x2000 := by
  have low : 1 ≤ mean.toNat := UInt16.le_iff_toNat_le.mp positive
  have high := mean.toNat_lt
  have exact_ : (mean.toNat * 8192 + mean.toNat / 2) / mean.toNat = 8192 := by
    rw [Nat.add_comm, Nat.add_mul_div_left _ _ (by omega), Nat.div_eq_of_lt (by omega)]
  apply UInt16.toNat_inj.mp
  simp only [normalizedValue, UInt32.toNat_toUInt16, UInt32.toNat_div, UInt32.toNat_add,
    UInt32.toNat_mul, UInt16.toNat_toUInt32, UInt32.toNat_ofNat, Nat.reducePow, Nat.reduceMod,
    UInt16.toNat_ofNat]
  rw [Nat.mod_eq_of_lt (b := 4294967296) (a := mean.toNat * 8192) (by omega),
    Nat.mod_eq_of_lt (b := 4294967296) (by omega), exact_]

/-- The average of a plain capture stays positive. -/
lemma temporalAverage_plain (average : UInt16) (positive : 1 ≤ average) :
    ∃ updated : UInt16, 1 ≤ updated ∧
      temporalAverage average 400 (400 + 1) 2000 = some updated.toUInt32 := by
  have low : 1 ≤ average.toNat := UInt16.le_iff_toNat_le.mp positive
  obtain ⟨updated, found, narrow, mean⟩ :=
    temporalAverage_eq average 2000 (show (400 : UInt32) ≠ 0xffffffff by decide)
  rw [if_pos (by decide)] at mean
  have same : updated.toUInt16.toNat = updated.toNat := by
    rw [UInt32.toNat_toUInt16, Nat.mod_eq_of_lt narrow]
  refine ⟨updated.toUInt16, ?_, ?_⟩
  · rw [UInt16.le_iff_toNat_le, same, mean]
    exact RunningAverage.le_update _ low (by decide)
  · rw [found, Option.some.injEq]
    apply UInt32.toNat_inj.mp
    rw [UInt16.toNat_toUInt32, same]

lemma Uniform.learn (h : self.Uniform multiplier count) :
    ∃ after, self.updateTemporalGain weight (Vector.replicate pixels 1000)
      (Vector.replicate pixels 3000) = some after ∧ after.Uniform multiplier count := by
  obtain ⟨average, positive, averages⟩ := h.average
  obtain ⟨updated, grown, found⟩ := temporalAverage_plain average positive
  have collected : (Collect.collect fun pixel : Fin pixels => temporalAverage
      (self.temporalGainAverage.get pixel) self.temporalSampleCount (self.temporalSampleCount + 1)
      2000) = some (Vector.replicate pixels updated.toUInt32) := by
    rw [Collect.collect_eq_some_iff]
    intro pixel
    rw [h.samples, averages, Collect.get_replicate, Collect.get_replicate, found]
  have mean : (planeSum (fun pixel : Fin pixels =>
      (Vector.replicate pixels updated.toUInt32).get pixel) + UInt32.ofNat (pixels / 2)) /
      UInt32.ofNat pixels = updated.toUInt32 := by
    have constant : (fun pixel : Fin pixels =>
        (Vector.replicate pixels updated.toUInt32).get pixel) = fun _ => updated.toUInt32 := by
      funext pixel
      rw [Collect.get_replicate]
    rw [constant]
    apply planeMean_const
    rw [UInt16.toNat_toUInt32]
    have := updated.toNat_lt
    omega
  have nonzero : updated.toUInt32 ≠ 0 := by
    intro zero
    have low : 1 ≤ updated.toNat := UInt16.le_iff_toNat_le.mp grown
    rw [← UInt16.toNat_toUInt32, zero] at low
    exact absurd low (by decide)
  have narrow : (Vector.replicate pixels updated.toUInt32).map UInt32.toUInt16 =
      Vector.replicate pixels updated := by
    rw [Vector.map_replicate, UInt16.toUInt16_toUInt32]
  rw [updateTemporalGain_plain, collected, Option.bind_some, applyTemporalAverages]
  have cap : min ((400 : UInt32) + 1) 400 = 400 := by decide
  simp only [mean, narrow, if_neg nonzero, h.samples, cap]
  rw [if_neg (by decide)]
  refine ⟨_, rfl, ⟨h.imageBase, rfl, ⟨updated, grown, rfl⟩, ?_, h.valid, h.multiplier, h.count⟩⟩
  apply ofFn_const
  intro pixel
  rw [Collect.get_replicate, normalizedValue_self updated grown]

/-- What one plain capture does. -/
lemma Uniform.step (h : self.Uniform multiplier count) (weight : Weight) :
    ∃ after, self.step weight plainCapture = some after ∧ after.Uniform
      (averagedMultiplier multiplier count (min (count + 1) 30) 0x2000) (min (count + 1) 30) := by
  rw [step_valid plainCapture_valid, plainCapture_prepared, h.imageBase, plainBase_prepared,
    h.source]
  exact h.adapt.learn

/-- The multiplier and its count after a number of plain captures. -/
def plainMultiplier : Nat → UInt16 → UInt32 → UInt16 × UInt32
  | 0, multiplier, count => (multiplier, count)
  | captures + 1, multiplier, count =>
    plainMultiplier captures (averagedMultiplier multiplier count (min (count + 1) 30) 0x2000)
      (min (count + 1) 30)

/-- What a run of plain captures does. -/
lemma Uniform.run (h : self.Uniform multiplier count) (weight : Weight) (captures : Nat) :
    ∃ reached, Reachability.run (Preprocessor.step weight) self
        (List.replicate captures plainCapture) = some reached ∧
      reached.Uniform (plainMultiplier captures multiplier count).1
        (plainMultiplier captures multiplier count).2 := by
  induction captures generalizing self multiplier count with
  | zero => exact ⟨self, rfl, h⟩
  | succ captures ih =>
    obtain ⟨after, succeeds, uniform⟩ := h.step weight
    obtain ⟨reached, runs, uniform'⟩ := ih uniform
    refine ⟨reached, ?_, uniform'⟩
    rw [List.replicate_succ, Reachability.run_of_step succeeds]
    exact runs

/-- The weights of a kernel so narrow that only its center is left. -/
def centerWeight : Weight := fun _ delta => if delta = 0 then 65536 else 0

/-! ### Where the runs start -/

lemma gainMean_replicate (gain : UInt16) :
    gainMean (Vector.replicate pixels gain) = gain.toUInt32 := by
  have narrow := gain.toNat_lt
  have constant : (fun (sum : UInt64) (pixel : Fin pixels) =>
      sum + ((Vector.replicate pixels gain).get pixel).toUInt64) =
        fun sum _ => sum + gain.toUInt64 := by
    funext sum pixel
    rw [Collect.get_replicate]
  have total : ((List.finRange pixels).map fun _ : Fin pixels => gain.toUInt64.toNat).sum =
      5120 * gain.toNat := by
    rw [List.map_const', List.length_finRange, List.sum_replicate, smul_eq_mul, pixels,
      imageWidth, imageHeight, UInt16.toNat_toUInt64]
  have sum := CArithmetic.toNat_foldl_add64 (List.finRange pixels) (fun _ => gain.toUInt64) 0
    (by rw [total]; simp only [UInt64.toNat_ofNat]; omega)
  rw [total] at sum
  apply UInt32.toNat_inj.mp
  unfold gainMean
  rw [constant]
  dsimp only
  rw [UInt64.toNat_toUInt32, UInt64.toNat_div, UInt64.toNat_add, sum]
  simp only [UInt64.toNat_ofNat, pixels, imageWidth, imageHeight, UInt64.toNat_ofNat',
    UInt16.toNat_toUInt32, Nat.reducePow, Nat.reduceMul, Nat.reduceMod, Nat.reduceDiv,
    Nat.zero_mod, Nat.zero_add]
  rw [Nat.mod_eq_of_lt (b := 18446744073709551616) (by omega)]
  omega

/-- A payload at unity gain that counts its samples as given. -/
def plainPayload (sampleCount : UInt32) : List UInt8 :=
  Calibration.assemble (Vector.replicate pixels 0x2000) plainBase sampleCount

/-- The calibration stage at unity gain. -/
lemma normalizeGainMap_unity (p : Preprocessor) (gain : p.gain = Vector.replicate pixels 0x2000) :
    p.normalizeGainMap = { p with
      normalizedGain := Vector.replicate pixels 0x2000
      normalizedGainValid := true } := by
  have unity : (Vector.ofFn fun pixel : Fin pixels => (normalizedValue
      ((Vector.replicate pixels (0x2000 : UInt16)).get pixel) (UInt16.toUInt32 0x2000)).toUInt16) =
      Vector.replicate pixels 0x2000 := by
    apply ofFn_const
    intro pixel
    rw [Collect.get_replicate]
    decide
  rw [normalizeGainMap, gain, gainMean_replicate, if_neg (by decide), unity]

lemma Uniform.initial {calibration : List UInt8}
    (gain : (initial calibration plainBase 400).gain = Vector.replicate pixels 0x2000) :
    (initial calibration plainBase 400).normalizeGainMap.Uniform 0x2000 0 := by
  rw [normalizeGainMap_unity _ gain]
  exact ⟨rfl, rfl, ⟨0x2000, by decide, gain⟩, rfl, rfl, rfl, rfl⟩

/-- The preprocessor of a plain payload with all its samples is uniform. -/
lemma uniform_plain :
    ∃ start, new (plainPayload 400) plainBase = .ok start ∧ start.Uniform 0x2000 0 := by
  obtain ⟨start, created, begun, gain⟩ :=
    new_assemble (Vector.replicate pixels 0x2000) plainBase plainBase 400
  have uniform := Uniform.initial gain
  rw [← begun] at uniform
  rw [plainPayload]
  exact ⟨start, created, uniform⟩

end GoodixSpi.Chicago.Preprocessor
