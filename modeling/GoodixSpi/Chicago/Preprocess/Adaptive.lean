import GoodixSpi.Lib.Reachability
import GoodixSpi.Chicago.Preprocess.Uniform

/-! The adaptive multiplier over whole runs. Below the cap of 30 samples an update is a
running average and stays in the window of the admitted ratios; at the cap the old average
keeps the weight 30 while the divisor stays 30, so every admitted ratio is added to it. -/

namespace GoodixSpi.Chicago.Preprocessor

open Reachability

def ratioAt (source : Plane) (pixel : Fin pixels) : UInt32 :=
  adaptiveRatio (source.get pixel) ((adaptiveFiltered source).get pixel)

/-- Every entry lies in the window of the admitted ratios. -/
def MultiplierBounded (self : Preprocessor) : Prop :=
  ∀ pixel : Fin pixels, 0x2000 - 0x147 ≤ (self.adaptiveMultiplier.get pixel).toNat ∧
    (self.adaptiveMultiplier.get pixel).toNat ≤ 0x2000 + 0x147

/-- The count has not reached its cap, or the source plane admits no ratio. -/
def AveragesRatios (self : Preprocessor) (source : Plane) : Prop :=
  self.adaptiveSampleCount < 30 ∨ ∀ pixel, admitsRatio (ratioAt source pixel) = false

/-- The same of a capture that passes the input check. -/
def AveragesCapture (self : Preprocessor) (capture : Capture) : Prop :=
  mode24RawInputIsValid (prepareFrame capture.raw) = true →
    self.AveragesRatios (self.sourcePlane capture)

lemma admitsRatio_iff {ratio : UInt32} :
    admitsRatio ratio = true ↔ 0x2000 - 0x147 ≤ ratio.toNat ∧ ratio.toNat ≤ 0x2000 + 0x147 := by
  rw [admitsRatio, decide_eq_true_iff]
  omega

lemma averagedMultiplier_toNat (multiplier : UInt16) (sampleCount newCount ratio : UInt32) :
    (averagedMultiplier multiplier sampleCount newCount ratio).toNat =
      (multiplier.toNat * sampleCount.toNat + ratio.toNat + newCount.toNat / 2) /
        newCount.toNat % 65536 := by
  have weighted : multiplier.toNat * sampleCount.toNat ≤ 65535 * 4294967295 :=
    Nat.mul_le_mul (by have := multiplier.toNat_lt; omega) (by have := sampleCount.toNat_lt; omega)
  have value := ratio.toNat_lt
  have divisor := newCount.toNat_lt
  simp only [averagedMultiplier, UInt64.toNat_toUInt16, UInt64.toNat_div, UInt64.toNat_add,
    UInt64.toNat_mul, UInt16.toNat_toUInt64, UInt32.toNat_toUInt64, UInt32.toNat_div,
    UInt32.toNat_ofNat, Nat.reducePow, Nat.reduceMod]
  rw [Nat.mod_eq_of_lt (b := 18446744073709551616) (a := multiplier.toNat * sampleCount.toNat) (by omega)]
  rw [Nat.mod_eq_of_lt (b := 18446744073709551616)
    (a := multiplier.toNat * sampleCount.toNat + ratio.toNat) (by omega)]
  rw [Nat.mod_eq_of_lt (b := 18446744073709551616) (by omega)]

variable {self : Preprocessor}

lemma newAdaptiveCount_toNat (few : self.adaptiveSampleCount ≤ 30) :
    self.newAdaptiveCount.toNat = min (self.adaptiveSampleCount.toNat + 1) 30 := by
  have bound : self.adaptiveSampleCount.toNat ≤ 30 := few
  have next : (self.adaptiveSampleCount + 1).toNat = self.adaptiveSampleCount.toNat + 1 := by
    rw [UInt32.toNat_add]
    simp only [UInt32.toNat_ofNat]
    omega
  unfold newAdaptiveCount
  rcases Nat.lt_or_ge self.adaptiveSampleCount.toNat 30 with below | full
  · rw [show min (self.adaptiveSampleCount + 1) 30 = self.adaptiveSampleCount + 1 from
      if_pos (UInt32.le_iff_toNat_le.mpr (by rw [next]; exact below)), next,
      Nat.min_eq_left below]
  · rw [show min (self.adaptiveSampleCount + 1) 30 = 30 from
      if_neg (fun le => by
        have := UInt32.le_iff_toNat_le.mp le
        rw [next] at this
        simp only [UInt32.toNat_ofNat] at this
        omega), Nat.min_eq_right (by omega)]
    rfl

/-- What an update does to one entry. -/
lemma multiplier_update (few : self.adaptiveSampleCount ≤ 30) (source : Plane)
    (pixel : Fin pixels) :
    ((self.updateAdaptiveMultiplier source).adaptiveMultiplier.get pixel).toNat =
      if admitsRatio (ratioAt source pixel) then
        RunningAverage.capped 30 (self.adaptiveMultiplier.get pixel).toNat
          self.adaptiveSampleCount.toNat (ratioAt source pixel).toNat % 65536
      else (self.adaptiveMultiplier.get pixel).toNat := by
  have entry : (self.updateAdaptiveMultiplier source).adaptiveMultiplier.get pixel =
      if admitsRatio (ratioAt source pixel) then
        averagedMultiplier (self.adaptiveMultiplier.get pixel) self.adaptiveSampleCount
          self.newAdaptiveCount (ratioAt source pixel)
      else self.adaptiveMultiplier.get pixel := by
    unfold updateAdaptiveMultiplier
    rw [Collect.get_ofFn]
    rfl
  rw [entry]
  split
  · rw [averagedMultiplier_toNat, newAdaptiveCount_toNat few, RunningAverage.capped]
  · rfl

lemma MultiplierBounded.update (h : self.MultiplierBounded) (few : self.adaptiveSampleCount ≤ 30)
    {source : Plane} (averages : self.AveragesRatios source) :
    (self.updateAdaptiveMultiplier source).MultiplierBounded := by
  intro pixel
  rw [multiplier_update few]
  obtain ⟨low, high⟩ := h pixel
  split
  · next admitted =>
    obtain ⟨ratioLow, ratioHigh⟩ := admitsRatio_iff.mp admitted
    rcases averages with below | none
    · have room : self.adaptiveSampleCount.toNat < 30 := UInt32.lt_iff_toNat_lt.mp below
      rw [RunningAverage.capped_of_lt room]
      have least := RunningAverage.le_update self.adaptiveSampleCount.toNat low ratioLow
      have most := RunningAverage.update_le self.adaptiveSampleCount.toNat high
        ratioHigh
      rw [Nat.mod_eq_of_lt (by omega)]
      exact ⟨least, most⟩
    · rw [none pixel] at admitted
      cases admitted
  · exact ⟨low, high⟩

/-- At the cap an admitted ratio raises the entry by a thirtieth of itself. -/
lemma multiplier_at_cap (full : self.adaptiveSampleCount = 30) {source : Plane}
    {pixel : Fin pixels} (admitted : admitsRatio (ratioAt source pixel) = true)
    (room : (self.adaptiveMultiplier.get pixel).toNat < 0x10000 - 284) :
    ((self.updateAdaptiveMultiplier source).adaptiveMultiplier.get pixel).toNat =
      (self.adaptiveMultiplier.get pixel).toNat + ((ratioAt source pixel).toNat + 15) / 30 := by
  obtain ⟨low, high⟩ := admitsRatio_iff.mp admitted
  have count : self.adaptiveSampleCount.toNat = 30 := by rw [full]; rfl
  rw [multiplier_update (by rw [full]; decide), if_pos admitted, count,
    RunningAverage.capped_at_cap (by decide), Nat.mod_eq_of_lt (by omega)]

/-! ### What the other updates leave alone -/

lemma updateTemporalGain_frame {weight : Weight} {current imageBase : Plane} {after : Preprocessor}
    (ok : self.updateTemporalGain weight current imageBase = some after) :
    after.adaptiveMultiplier = self.adaptiveMultiplier ∧
      after.adaptiveSampleCount = self.adaptiveSampleCount := by
  unfold updateTemporalGain at ok
  obtain ⟨averages, -, applied⟩ := Option.bind_eq_some_iff.mp ok
  unfold applyTemporalAverages at applied
  dsimp only at applied
  split at applied
  · cases applied
    exact ⟨rfl, rfl⟩
  · split at applied
    · obtain ⟨kernel, -, rfl⟩ := Option.map_eq_some_iff.mp applied
      exact ⟨rfl, rfl⟩
    · cases applied
      exact ⟨rfl, rfl⟩

lemma normalizeGainMap_frame (self : Preprocessor) :
    self.normalizeGainMap.adaptiveMultiplier = self.adaptiveMultiplier ∧
      self.normalizeGainMap.adaptiveSampleCount = self.adaptiveSampleCount := by
  unfold normalizeGainMap
  dsimp only
  split <;> exact ⟨rfl, rfl⟩

lemma new_frame {calibration : List UInt8} {imageBase : Plane} {start : Preprocessor}
    (created : new calibration imageBase = .ok start) :
    start.adaptiveMultiplier = Vector.replicate pixels 0x2000 ∧
      start.adaptiveSampleCount = 0 := by
  obtain ⟨-, rfl⟩ := new_eq_ok_iff.mp created
  exact normalizeGainMap_frame _

/-- What holds in every state of an averaging run. -/
structure Adapting (p : Preprocessor) : Prop where
  few : p.adaptiveSampleCount ≤ 30
  bounded : p.MultiplierBounded

lemma adapting_new {calibration : List UInt8} {imageBase : Plane} {start : Preprocessor}
    (created : new calibration imageBase = .ok start) : start.Adapting := by
  obtain ⟨multiplier, count⟩ := new_frame created
  constructor
  · rw [count]
    decide
  · intro pixel
    rw [multiplier, Collect.get_replicate]
    decide

lemma Adapting.step {weight : Weight} {capture : Capture} {after : Preprocessor}
    (h : self.Adapting) (averages : self.AveragesCapture capture)
    (ok : self.step weight capture = some after) : after.Adapting := by
  rcases step_cases self weight capture with
    ⟨-, same⟩ | ⟨valid, updates⟩
  · rw [same] at ok
    cases ok
    exact h
  · rw [updates] at ok
    obtain ⟨multiplier, count⟩ := updateTemporalGain_frame ok
    constructor
    · rw [count, updateAdaptiveMultiplier_adaptiveSampleCount]
      have next := newAdaptiveCount_toNat h.few
      exact UInt32.le_iff_toNat_le.mpr (by
        rw [next]
        exact Nat.min_le_right _ _)
    · intro pixel
      rw [multiplier]
      exact h.bounded.update h.few (averages valid) pixel

/-- In a run whose updates average, every update leaves the multiplier in the window of the
admitted ratios. At the cap an admitted ratio is added instead, a thirtieth at a time. -/
theorem adaptive_multiplier_bounded (weight : Weight) {calibration : List UInt8}
    {imageBase : Plane} {start : Preprocessor} (created : new calibration imageBase = .ok start) :
    (∀ reached, Reaches (step weight) AveragesCapture start reached →
      reached.MultiplierBounded ∧
      ∀ capture, mode24RawInputIsValid (prepareFrame capture.raw) = true →
        reached.AveragesCapture capture →
        (reached.updateAdaptiveMultiplier (reached.sourcePlane capture)).MultiplierBounded) ∧
    ∀ (self : Preprocessor) (source : Plane) (pixel : Fin pixels),
      self.adaptiveSampleCount = 30 → admitsRatio (ratioAt source pixel) = true →
      (self.adaptiveMultiplier.get pixel).toNat < 0x10000 - 284 →
      ((self.updateAdaptiveMultiplier source).adaptiveMultiplier.get pixel).toNat =
        (self.adaptiveMultiplier.get pixel).toNat + ((ratioAt source pixel).toNat + 15) / 30 := by
  constructor
  · intro reached run
    have adapting := run.invariant Adapting (adapting_new created)
      fun before capture after holds averages ok => holds.step averages ok
    exact ⟨adapting.bounded, fun capture valid averages =>
      adapting.bounded.update adapting.few (averages valid)⟩
  · intro self source pixel full admitted room
    exact multiplier_at_cap full admitted room

theorem adaptive_multiplier_bounded_plain : ∃ start,
    new (plainPayload 400) plainBase = .ok start ∧
    (start.updateAdaptiveMultiplier (start.sourcePlane plainCapture)).MultiplierBounded := by
  obtain ⟨start, created, uniform⟩ := uniform_plain
  have averages : start.AveragesCapture plainCapture := by
    intro _
    left
    rw [uniform.count]
    decide
  exact ⟨start, created, ((adaptive_multiplier_bounded centerWeight created).1 start .start).2
    plainCapture plainCapture_valid averages⟩

/-- Thirty-two captures of a plain frame leave the window. -/
theorem adaptive_multiplier_leaves_window : ∃ start reached,
    new (plainPayload 400) plainBase = .ok start ∧
    run (step centerWeight) start (List.replicate 32 plainCapture) = some reached ∧
    ¬ reached.MultiplierBounded := by
  obtain ⟨start, created, uniform⟩ := uniform_plain
  obtain ⟨reached, runs, grown⟩ := uniform.run centerWeight 32
  refine ⟨start, reached, created, runs, ?_⟩
  intro bounded
  have size := Calibration.offsets.1
  have high := (bounded ⟨0, by omega⟩).2
  rw [grown.multiplier, Collect.get_replicate] at high
  have value : (plainMultiplier 32 0x2000 0).1 = 8738 := by decide +kernel
  rw [value] at high
  exact absurd high (by decide)

end GoodixSpi.Chicago.Preprocessor
