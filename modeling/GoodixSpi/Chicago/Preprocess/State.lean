import GoodixSpi.Lib.Collect
import GoodixSpi.Lib.RunningAverage
import GoodixSpi.Chicago.Preprocess.Filter

/-! The preprocessor: the gain plane of the calibration, its running temporal average, and
the adaptive multiplier, all of which every capture updates. -/

namespace GoodixSpi.Chicago

structure Preprocessor where
  calibration : List UInt8
  imageBase : Plane
  gain : Plane
  offset : Plane
  temporalGainAverage : Plane
  temporalSampleCount : UInt32
  normalizedGain : Plane
  normalizedGainValid : Bool
  adaptiveMultiplier : Plane
  adaptiveSampleCount : UInt32

/-- The integer part of `exp (-delta² / (2 sigma²)) * 65536.0`, with `sigma` in Q16. The
exponential belongs to the C library. -/
abbrev Weight := UInt32 → Int → UInt32

/-- `guint32 sum` over a plane. -/
def planeSum (values : Fin pixels → UInt32) : UInt32 :=
  (List.finRange pixels).foldl (fun sum pixel => sum + values pixel) 0

/-- `image_base > current ? image_base - current : 0`. -/
def clippedDifference (imageBase current : UInt16) : UInt32 :=
  if imageBase > current then imageBase.toUInt32 - current.toUInt32 else 0

namespace Preprocessor

/-! ### The calibration stage -/

def gainMean (gain : Plane) : UInt32 :=
  let sum : UInt64 :=
    (List.finRange pixels).foldl (fun sum pixel => sum + (gain.get pixel).toUInt64) 0
  ((sum + UInt64.ofNat (pixels / 2)) / UInt64.ofNat pixels).toUInt32

/-- `(gain * 0x2000u + mean / 2) / mean`. -/
def normalizedValue (gain : UInt16) (mean : UInt32) : UInt32 :=
  (gain.toUInt32 * 0x2000 + mean / 2) / mean

variable (self : Preprocessor)

def normalizeGainMap : Preprocessor :=
  let mean := gainMean self.gain
  if mean = 0 then self
  else
    { self with
      normalizedGain := Vector.ofFn fun pixel =>
        (normalizedValue (self.gain.get pixel) mean).toUInt16
      normalizedGainValid := true }

/-- The corrections of a pixel; a validated payload has them all. -/
def correction (calibration : List UInt8) (pixel : Nat) : UInt16 × UInt16 :=
  (Calibration.getCorrections calibration pixel).toOption.getD (0, 0)

/-- The state before the gain map is normalized. -/
def initial (calibration : List UInt8) (imageBase : Plane) (sampleCount : UInt32) :
    Preprocessor where
  calibration := calibration
  imageBase := imageBase
  gain := Vector.ofFn fun pixel => (correction calibration pixel).1
  offset := Vector.ofFn fun pixel => (correction calibration pixel).2
  temporalGainAverage := Vector.ofFn fun pixel => (correction calibration pixel).1
  temporalSampleCount := sampleCount
  normalizedGain := Vector.replicate pixels 0
  normalizedGainValid := false
  adaptiveMultiplier := Vector.replicate pixels 0x2000
  adaptiveSampleCount := 0

def new (calibration : List UInt8) (imageBase : Plane) : Except GError Preprocessor := do
  Calibration.validatePayload calibration
  let sampleCount ← Calibration.getTemporalSampleCount calibration
  return (initial calibration imageBase sampleCount).normalizeGainMap

/-- Creation succeeds on the payloads that validate. -/
lemma new_eq_ok_iff {calibration : List UInt8} {imageBase : Plane} {start : Preprocessor} :
    new calibration imageBase = .ok start ↔ Calibration.Valid calibration ∧
      start = (initial calibration imageBase (Calibration.readLe32
        (Buffer.read calibration temporalSampleCountOffset 4))).normalizeGainMap := by
  have counted : Calibration.Valid calibration → Calibration.getTemporalSampleCount calibration =
      .ok (Calibration.readLe32 (Buffer.read calibration temporalSampleCountOffset 4)) :=
    fun valid => if_neg (not_not_intro valid.length)
  constructor
  · intro created
    cases accepted : Calibration.validatePayload calibration with
    | error failure =>
      rw [new, accepted] at created
      cases created
    | ok done =>
      have valid := Calibration.validatePayload_ok_iff.mp accepted
      rw [new, accepted, counted valid] at created
      cases created
      exact ⟨valid, rfl⟩
  · rintro ⟨valid, rfl⟩
    rw [new, Calibration.validatePayload_ok_iff.mpr valid, counted valid]
    rfl

lemma correction_assemble (gains imageBase : Plane) (sampleCount : UInt32) (pixel : Fin pixels) :
    correction (Calibration.assemble gains imageBase sampleCount) pixel =
      (gains.get pixel, (prepareFrame imageBase).get pixel) := by
  rw [correction, Calibration.getCorrections_assemble _ _ _ pixel.isLt, pixelAt_eq _ pixel.isLt,
    pixelAt_eq _ pixel.isLt]
  rfl

/-- The gain map of a payload. -/
def gainMap (calibration : List UInt8) : Plane :=
  Vector.ofFn fun pixel => (correction calibration pixel).1

lemma initial_gain (calibration : List UInt8) (imageBase : Plane) (sampleCount : UInt32) :
    (initial calibration imageBase sampleCount).gain = gainMap calibration := by
  rw [initial, gainMap]

lemma gainMap_assemble (gains offsets : Plane) (sampleCount : UInt32) :
    gainMap (Calibration.assemble gains offsets sampleCount) = gains := by
  ext pixel inside
  have read := correction_assemble gains offsets sampleCount ⟨pixel, inside⟩
  simp only [gainMap, Vector.getElem_ofFn]
  rw [show correction (Calibration.assemble gains offsets sampleCount) pixel = _ from read]
  rfl

/-- The preprocessor of an assembled payload starts from its gain map and its count. -/
lemma new_assemble (gains offsets imageBase : Plane) (sampleCount : UInt32) :
    ∃ start, new (Calibration.assemble gains offsets sampleCount) imageBase = .ok start ∧
      start = (initial (Calibration.assemble gains offsets sampleCount) imageBase
        sampleCount).normalizeGainMap ∧
      (initial (Calibration.assemble gains offsets sampleCount) imageBase sampleCount).gain =
        gains := by
  have counted := Calibration.getTemporalSampleCount_assemble gains offsets sampleCount
  rw [Calibration.getTemporalSampleCount,
    if_neg (not_not_intro (Calibration.length_assemble _ _ _)), Except.ok.injEq] at counted
  refine ⟨_, new_eq_ok_iff.mpr ⟨Calibration.assemble_valid _ _ _, rfl⟩, by rw [counted], ?_⟩
  rw [initial_gain, gainMap_assemble]

/-! ### The source plane -/

def appliedGain (applyAdaptiveMultiplier : Bool) (normalizedGain multiplier : UInt16) : UInt32 :=
  if applyAdaptiveMultiplier then
    (normalizedGain.toUInt32 * multiplier.toUInt32 + 0x1000) >>> 13
  else normalizedGain.toUInt32

def sourceValue (difference gain : UInt32) : UInt32 :=
  if gain = 0 then difference <<< 13 else (difference * 0x2000 + gain / 2) / gain

/-- Without a usable gain plane the output keeps whatever it held. -/
def buildSourcePlaneInternal (current imageBase : Plane) (applyAdaptiveMultiplier : Bool)
    (stale : Plane) : Plane :=
  if self.normalizedGainValid then
    Vector.ofFn fun pixel =>
      (sourceValue (clippedDifference (imageBase.get pixel) (current.get pixel))
        (appliedGain applyAdaptiveMultiplier (self.normalizedGain.get pixel)
          (self.adaptiveMultiplier.get pixel))).toUInt16
  else stale

/-! ### Local centering -/

/-- The enabled pixels of the clipped 11 by 11 window. -/
def enabledWindow (mask : Vector UInt8 pixels) (pixel : Nat) : List Nat :=
  (List.range 11).flatMap fun (row : Nat) => (List.range 11).filterMap fun (column : Nat) =>
    let neighborY : Int := (pixel / imageWidth : Nat) + (row : Int) - 5
    let neighborX : Int := (pixel % imageWidth : Nat) + (column : Int) - 5
    if neighborY < 0 ∨ neighborY ≥ imageHeight ∨ neighborX < 0 ∨ neighborX ≥ imageWidth then none
    else
      let neighbor := neighborY.toNat * imageWidth + neighborX.toNat
      if mask.toList.getD neighbor 0 = 0 then none else some neighbor

/-- The rounded mean of the enabled pixels around a pixel. -/
def localMean (source : Plane) (mask : Vector UInt8 pixels) (pixel : Nat) : UInt32 :=
  let window := enabledWindow mask pixel
  let sum : UInt32 := window.foldl (fun sum neighbor => sum + (pixelAt source neighbor).toUInt32) 0
  let count : UInt32 := UInt32.ofNat window.length
  (sum + count / 2) / count

/-- `(gint) source[pixel] - mean + 3000`. -/
def centeredValue (source : Plane) (mask : Vector UInt8 pixels) (pixel : Nat) : Int :=
  ((pixelAt source pixel).toNat : Int) - (localMean source mask pixel).toNat + 3000

def centerLocalMean (source : Plane) (mask : Vector UInt8 pixels) : Plane :=
  Vector.ofFn fun pixel =>
    if mask.get pixel = 0 then 3000
    else
      let centered := centeredValue source mask pixel
      if centered < 0 then 0 else UInt16.ofNat centered.toNat

/-! ### The adaptive multiplier -/

def adaptiveKernel : Kernel := #v[7869, 15328, 19142, 15328, 7869]

def adaptiveFiltered (source : Plane) : Plane :=
  separableFilter (fun sum => (sum >>> 16).toUInt16) adaptiveKernel source

def adaptiveRatio (source localMean : UInt16) : UInt32 :=
  if localMean = 0 then 0x2000
  else (source.toUInt32 * 0x2000 + localMean.toUInt32 / 2) / localMean.toUInt32

/-- `ABS ((gint64) ratio - 0x2000) < 0x148`. -/
def admitsRatio (ratio : UInt32) : Bool := ((ratio.toNat : Int) - 0x2000).natAbs < 0x148

def averagedMultiplier (multiplier : UInt16) (sampleCount newCount ratio : UInt32) : UInt16 :=
  ((multiplier.toUInt64 * sampleCount.toUInt64 + ratio.toUInt64 + (newCount / 2).toUInt64) /
    newCount.toUInt64).toUInt16

def newAdaptiveCount : UInt32 := min (self.adaptiveSampleCount + 1) 30

def updateAdaptiveMultiplier (source : Plane) : Preprocessor :=
  let filtered := adaptiveFiltered source
  { self with
    adaptiveMultiplier := Vector.ofFn fun pixel =>
      let ratio := adaptiveRatio (source.get pixel) (filtered.get pixel)
      if admitsRatio ratio then
        averagedMultiplier (self.adaptiveMultiplier.get pixel) self.adaptiveSampleCount
          self.newAdaptiveCount ratio
      else self.adaptiveMultiplier.get pixel
    adaptiveSampleCount := self.newAdaptiveCount }

/-! ### The temporal gain -/

def differenceMean (candidate : Fin pixels → UInt32) : UInt32 :=
  let mean := (planeSum candidate + UInt32.ofNat (pixels / 2)) / UInt32.ofNat pixels
  if mean = 0 then 2000 else mean

def temporalScale (mean : UInt32) : UInt32 := (2000 * 0x2000 + mean / 2) / mean

def temporalValue (candidate scale : UInt32) : UInt32 :=
  ((candidate.toUInt64 * scale.toUInt64 + 0x1000) >>> 13).toUInt32

/-- `ABS ((gint64) value - 2000) < 1600`. -/
def admitsValue (value : UInt32) : Bool := ((value.toNat : Int) - 2000).natAbs < 1600

/-- The new average of a pixel; none where the source would divide by zero. -/
def temporalAverage (average : UInt16) (sampleCount newCount value : UInt32) : Option UInt32 :=
  if admitsValue value then
    if newCount = 0 then none
    else
      some ((average.toUInt64 * sampleCount.toUInt64 + value.toUInt64 +
        (newCount / 2).toUInt64) / newCount.toUInt64).toUInt32
  else some average.toUInt32

/-- The normalized kernel of the temporal smoothing; none where it would divide by zero. -/
def temporalKernel (weight : Weight) (sampleCount : UInt32) : Option Kernel :=
  if sampleCount = 0 then none
  else
    let sigma := 0x320000 / sampleCount
    let raw : Fin 5 → UInt32 := fun tap => weight sigma ((tap : Nat) - 2)
    let kernelSum : UInt64 := (List.finRange 5).foldl (fun sum tap => sum + (raw tap).toUInt64) 0
    if kernelSum = 0 then none
    else
      some (Vector.ofFn fun tap =>
        (((raw tap).toUInt64 * 65536 + kernelSum / 2) / kernelSum).toUInt32)

def temporalSmoothNormalizedGain (weight : Weight) : Option Preprocessor :=
  (temporalKernel weight self.temporalSampleCount).map fun kernel =>
    { self with
      normalizedGain := separableFilter (fun sum => (min (sum >>> 16) 0xffff).toUInt16) kernel
        self.normalizedGain }

/-- The part of `update_temporal_gain` after the averages are known. -/
def applyTemporalAverages (weight : Weight) (averages : Vector UInt32 pixels) :
    Option Preprocessor :=
  let stored : Plane := averages.map UInt32.toUInt16
  let averaged : Preprocessor := { self with
    temporalGainAverage := stored
    temporalSampleCount := min (self.temporalSampleCount + 1) 400 }
  let averageMean := (planeSum (fun pixel => averages.get pixel) + UInt32.ofNat (pixels / 2)) /
    UInt32.ofNat pixels
  if averageMean = 0 then some averaged
  else
    let normalized : Preprocessor := { averaged with
      normalizedGain := Vector.ofFn fun pixel =>
        (normalizedValue (stored.get pixel) averageMean).toUInt16 }
    if normalized.temporalSampleCount > 3 ∧ normalized.temporalSampleCount ≤ 200 then
      normalized.temporalSmoothNormalizedGain weight
    else some normalized

/-- None where the source would divide by zero. -/
def updateTemporalGain (weight : Weight) (current imageBase : Plane) : Option Preprocessor :=
  let candidate : Fin pixels → UInt32 := fun pixel =>
    clippedDifference (imageBase.get pixel) (current.get pixel)
  let scale := temporalScale (differenceMean candidate)
  (Collect.collect fun pixel => temporalAverage (self.temporalGainAverage.get pixel)
      self.temporalSampleCount (self.temporalSampleCount + 1)
      (temporalValue (candidate pixel) scale)).bind
    (self.applyTemporalAverages weight)

/-- What one update makes of the average of a pixel. -/
lemma temporalAverage_eq (average : UInt16) {sampleCount : UInt32} (value : UInt32)
    (room : sampleCount ≠ 0xffffffff) :
    ∃ updated : UInt32, temporalAverage average sampleCount (sampleCount + 1) value = some updated ∧
      updated.toNat < 65536 ∧ updated.toNat = if admitsValue value then
        RunningAverage.update average.toNat sampleCount.toNat value.toNat else average.toNat := by
  have small : sampleCount.toNat < 4294967295 := by
    have bound := sampleCount.toNat_lt
    have differ : sampleCount.toNat ≠ 4294967295 := fun same =>
      room (UInt32.toNat_inj.mp same)
    omega
  have next : (sampleCount + 1).toNat = sampleCount.toNat + 1 := by
    rw [UInt32.toNat_add]
    simp only [UInt32.toNat_ofNat]
    omega
  have nonzero : sampleCount + 1 ≠ 0 := by
    intro zero
    rw [zero] at next
    simp only [UInt32.toNat_ofNat] at next
    omega
  unfold temporalAverage
  split
  · next admitted =>
    have weighted : average.toNat * sampleCount.toNat ≤ 65535 * 4294967295 :=
      Nat.mul_le_mul (by have := average.toNat_lt; omega) (by omega)
    have bounded : admitsValue value = true := admitted
    rw [admitsValue, decide_eq_true_iff] at bounded
    have high : RunningAverage.update average.toNat sampleCount.toNat value.toNat ≤ 65535 :=
      RunningAverage.update_le _ (by have := average.toNat_lt; omega) (by omega)
    refine ⟨_, rfl, ?_⟩
    suffices exact_ : _ = RunningAverage.update average.toNat sampleCount.toNat value.toNat from
      ⟨by rw [exact_]; omega, exact_⟩
    simp only [UInt64.toNat_toUInt32, UInt64.toNat_div, UInt64.toNat_add, UInt64.toNat_mul,
      UInt16.toNat_toUInt64, UInt32.toNat_toUInt64, UInt32.toNat_div, UInt32.toNat_ofNat,
      Nat.reducePow, Nat.reduceMod, next]
    rw [Nat.mod_eq_of_lt (b := 18446744073709551616)
        (a := average.toNat * sampleCount.toNat) (by omega),
      Nat.mod_eq_of_lt (b := 18446744073709551616)
        (a := average.toNat * sampleCount.toNat + value.toNat) (by omega),
      Nat.mod_eq_of_lt (b := 18446744073709551616) (by omega)]
    rw [RunningAverage.update] at high
    rw [Nat.mod_eq_of_lt (by omega), RunningAverage.update]
  · exact ⟨_, rfl, by rw [UInt16.toNat_toUInt32]; exact average.toNat_lt,
      UInt16.toNat_toUInt32 average⟩

/-! ### Captures -/

/-- More than half of the two-pixel interior is neither dark nor saturated. -/
def mode24RawInputIsValid (prepared : Plane) : Bool :=
  let interior := (List.range' 2 (imageHeight - 4)).flatMap fun y =>
    (List.range' 2 (imageWidth - 4)).map fun x => pixelAt prepared (y * imageWidth + x)
  let valid := interior.countP fun value => value > 50 && value < 4050
  valid * 100 > interior.length * 50

/-- A capture, and what the uninitialised source plane of its call holds. -/
structure Capture where
  raw : Plane
  stale : Plane

def sourcePlane (capture : Capture) : Plane :=
  self.buildSourcePlaneInternal (prepareFrame capture.raw) (prepareFrame self.imageBase) false
    capture.stale

/-- What a capture does to the preprocessor. The image that is built between the two updates
only reads it. A capture that fails the input check changes nothing. -/
def buildEnhancedChecked (weight : Weight) (capture : Capture) : Option Preprocessor :=
  let current := prepareFrame capture.raw
  if mode24RawInputIsValid current then
    (self.updateAdaptiveMultiplier (self.sourcePlane capture)).updateTemporalGain weight current
      (prepareFrame self.imageBase)
  else some self

/-- One capture of a run. -/
def step (weight : Weight) (self : Preprocessor) (capture : Capture) : Option Preprocessor :=
  self.buildEnhancedChecked weight capture

/-! ### What a capture can do -/

section Frame

variable (source : Plane)

@[simp] lemma updateAdaptiveMultiplier_gain :
    (self.updateAdaptiveMultiplier source).gain = self.gain := by
  rw [updateAdaptiveMultiplier]

@[simp] lemma updateAdaptiveMultiplier_imageBase :
    (self.updateAdaptiveMultiplier source).imageBase = self.imageBase := by
  rw [updateAdaptiveMultiplier]

@[simp] lemma updateAdaptiveMultiplier_normalizedGain :
    (self.updateAdaptiveMultiplier source).normalizedGain = self.normalizedGain := by
  rw [updateAdaptiveMultiplier]

@[simp] lemma updateAdaptiveMultiplier_normalizedGainValid :
    (self.updateAdaptiveMultiplier source).normalizedGainValid = self.normalizedGainValid := by
  rw [updateAdaptiveMultiplier]

@[simp] lemma updateAdaptiveMultiplier_temporalGainAverage :
    (self.updateAdaptiveMultiplier source).temporalGainAverage = self.temporalGainAverage := by
  rw [updateAdaptiveMultiplier]

@[simp] lemma updateAdaptiveMultiplier_temporalSampleCount :
    (self.updateAdaptiveMultiplier source).temporalSampleCount = self.temporalSampleCount := by
  rw [updateAdaptiveMultiplier]

@[simp] lemma updateAdaptiveMultiplier_adaptiveSampleCount :
    (self.updateAdaptiveMultiplier source).adaptiveSampleCount = self.newAdaptiveCount := by
  rw [updateAdaptiveMultiplier]

end Frame

variable (weight : Weight) (capture : Capture)

/-- A capture is refused, or it updates the multiplier and then the temporal gain. -/
lemma step_cases :
    mode24RawInputIsValid (prepareFrame capture.raw) = false ∧
        self.step weight capture = some self ∨
      mode24RawInputIsValid (prepareFrame capture.raw) = true ∧
        self.step weight capture =
          (self.updateAdaptiveMultiplier (self.sourcePlane capture)).updateTemporalGain weight
            (prepareFrame capture.raw) (prepareFrame self.imageBase) := by
  unfold step buildEnhancedChecked
  dsimp only
  split
  · next valid => exact .inr ⟨valid, rfl⟩
  · next refused => exact .inl ⟨by simpa using refused, rfl⟩

variable {self} {weight} {capture}

lemma step_valid (valid : mode24RawInputIsValid (prepareFrame capture.raw) = true) :
    self.step weight capture =
      (self.updateAdaptiveMultiplier (self.sourcePlane capture)).updateTemporalGain weight
        (prepareFrame capture.raw) (prepareFrame self.imageBase) := by
  rw [step, buildEnhancedChecked, if_pos valid]

end Preprocessor

end GoodixSpi.Chicago
