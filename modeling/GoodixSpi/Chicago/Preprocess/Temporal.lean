import GoodixSpi.Lib.Reachability
import GoodixSpi.Chicago.Preprocess.Uniform
import Mathlib.Algebra.Order.BigOperators.Group.List
import Mathlib.Algebra.Group.Action.Defs

/-! The temporal gain over whole runs. The sample count of the payload is a divisor after
it has been incremented in 32 bits; every other divisor is guarded. -/

namespace GoodixSpi.Chicago.Preprocessor

open Reachability

variable {self after : Preprocessor} {weight : Weight}

/-- The center weight is not zero, so neither is the kernel sum. -/
lemma temporalKernel_isSome (center : ∀ sigma, weight sigma 0 = 65536) {sampleCount : UInt32}
    (positive : sampleCount ≠ 0) : (temporalKernel weight sampleCount).isSome = true := by
  unfold temporalKernel
  rw [if_neg positive]
  dsimp only
  rw [if_neg, Option.isSome_some]
  intro zero
  have bound := List.sum_le_card_nsmul ((List.finRange 5).map fun tap : Fin 5 =>
    ((weight (0x320000 / sampleCount) ((tap : Nat) - 2)).toUInt64).toNat) 4294967295
    (List.forall_mem_map.mpr fun tap _ => by
      rw [UInt32.toNat_toUInt64]
      have := (weight (0x320000 / sampleCount) ((tap : Nat) - 2)).toNat_lt
      omega)
  rw [List.length_map, List.length_finRange, smul_eq_mul] at bound
  have sum := CArithmetic.toNat_foldl_add64 (List.finRange 5)
    (fun tap : Fin 5 => (weight (0x320000 / sampleCount) ((tap : Nat) - 2)).toUInt64) 0
    (by simp only [UInt64.toNat_ofNat]; omega)
  rw [zero] at sum
  have middle : ((weight (0x320000 / sampleCount) 0).toUInt64).toNat ≤
      ((List.finRange 5).map fun tap : Fin 5 =>
        ((weight (0x320000 / sampleCount) ((tap : Nat) - 2)).toUInt64).toNat).sum :=
    List.le_sum_of_mem (List.mem_map.mpr ⟨2, List.mem_finRange 2, rfl⟩)
  rw [center] at middle
  simp only [UInt64.toNat_ofNat, Nat.reducePow, Nat.zero_mod, Nat.zero_add] at sum
  rw [← sum] at middle
  exact absurd middle (by decide)

/-- What an update leaves in the temporal fields. -/
structure Averaged (before after : Preprocessor) : Prop where
  gain : after.gain = before.gain
  count : after.temporalSampleCount = min (before.temporalSampleCount + 1) 400
  average : ∀ pixel : Fin pixels, ∃ value, (after.temporalGainAverage.get pixel).toNat =
    if admitsValue value then
      RunningAverage.update (before.temporalGainAverage.get pixel).toNat
        before.temporalSampleCount.toNat value.toNat
    else (before.temporalGainAverage.get pixel).toNat

lemma applyTemporalAverages_frame {averages : Vector UInt32 pixels}
    (ok : self.applyTemporalAverages weight averages = some after) :
    after.gain = self.gain ∧ after.temporalSampleCount = min (self.temporalSampleCount + 1) 400 ∧
      after.temporalGainAverage = averages.map UInt32.toUInt16 := by
  unfold applyTemporalAverages at ok
  dsimp only at ok
  split at ok
  · cases ok
    exact ⟨rfl, rfl, rfl⟩
  · split at ok
    · obtain ⟨kernel, -, rfl⟩ := Option.map_eq_some_iff.mp ok
      exact ⟨rfl, rfl, rfl⟩
    · cases ok
      exact ⟨rfl, rfl, rfl⟩

lemma applyTemporalAverages_isSome (center : ∀ sigma, weight sigma 0 = 65536)
    (averages : Vector UInt32 pixels) :
    (self.applyTemporalAverages weight averages).isSome = true := by
  unfold applyTemporalAverages
  dsimp only
  split
  · rfl
  · split
    · next window =>
      rw [temporalSmoothNormalizedGain, Option.isSome_map]
      apply temporalKernel_isSome center
      intro zero
      have none_ : min (self.temporalSampleCount + 1) 400 = 0 := zero
      rw [none_] at window
      exact absurd window.1 (by decide)
    · rfl

lemma updateTemporalGain_isSome (center : ∀ sigma, weight sigma 0 = 65536)
    (room : self.temporalSampleCount ≠ 0xffffffff) (current imageBase : Plane) :
    (self.updateTemporalGain weight current imageBase).isSome = true := by
  unfold updateTemporalGain
  dsimp only
  rw [Option.isSome_bind]
  have present : (Collect.collect fun pixel : Fin pixels =>
      temporalAverage (self.temporalGainAverage.get pixel) self.temporalSampleCount
        (self.temporalSampleCount + 1)
        (temporalValue (clippedDifference (imageBase.get pixel) (current.get pixel))
          (temporalScale (differenceMean fun pixel =>
            clippedDifference (imageBase.get pixel) (current.get pixel))))).isSome = true :=
    Collect.collect_isSome fun pixel => by
      obtain ⟨updated, found, -, -⟩ := temporalAverage_eq (self.temporalGainAverage.get pixel) _ room
      rw [found]
      rfl
  obtain ⟨averages, found⟩ := Option.isSome_iff_exists.mp present
  rw [found]
  exact applyTemporalAverages_isSome center averages

lemma updateTemporalGain_count {current imageBase : Plane}
    (ok : self.updateTemporalGain weight current imageBase = some after) :
    after.temporalSampleCount = min (self.temporalSampleCount + 1) 400 := by
  unfold updateTemporalGain at ok
  obtain ⟨averages, -, applied⟩ := Option.bind_eq_some_iff.mp ok
  exact (applyTemporalAverages_frame applied).2.1

lemma updateTemporalGain_averaged (room : self.temporalSampleCount ≠ 0xffffffff)
    {current imageBase : Plane} (ok : self.updateTemporalGain weight current imageBase = some after) :
    Averaged self after := by
  unfold updateTemporalGain at ok
  obtain ⟨averages, collected, applied⟩ := Option.bind_eq_some_iff.mp ok
  obtain ⟨gain, count, stored⟩ := applyTemporalAverages_frame applied
  refine ⟨gain, count, fun pixel => ?_⟩
  have found := Collect.collect_eq_some_iff.mp collected pixel
  obtain ⟨updated, same, narrow, average⟩ :=
    temporalAverage_eq (self.temporalGainAverage.get pixel) _ room
  rw [found] at same
  cases same
  have kept : (after.temporalGainAverage.get pixel).toNat = (averages.get pixel).toNat := by
    rw [stored, Collect.get_map, UInt32.toNat_toUInt16]
    exact Nat.mod_eq_of_lt narrow
  exact ⟨_, kept.trans average⟩

/-- The average of a pixel between its initial gain and the admitted values. -/
def TemporalBounded (start self : Preprocessor) : Prop :=
  ∀ pixel : Fin pixels,
    min (start.gain.get pixel).toNat 401 ≤ (self.temporalGainAverage.get pixel).toNat ∧
      (self.temporalGainAverage.get pixel).toNat ≤ max (start.gain.get pixel).toNat 3599

/-- What the learning of the temporal gain must keep over every run of captures. -/
structure LearnsSafely (weight : Weight) (start : Preprocessor) : Prop where
  divides : ∀ reached, Reaches (step weight) (fun _ _ => True) start reached →
    ∀ capture, reached.step weight capture ≠ none
  count : ∀ reached, Reaches (step weight) (fun _ _ => True) start reached →
    ∀ capture learned, mode24RawInputIsValid (prepareFrame capture.raw) = true →
      reached.step weight capture = some learned →
      1 ≤ learned.temporalSampleCount.toNat ∧ learned.temporalSampleCount.toNat ≤ 400
  average : ∀ reached, Reaches (step weight) (fun _ _ => True) start reached →
    TemporalBounded start reached

lemma cappedCount {count : UInt32} (room : count ≠ 0xffffffff) :
    1 ≤ (min (count + 1) 400).toNat ∧ (min (count + 1) 400).toNat ≤ 400 := by
  have bound := count.toNat_lt
  have differ : count.toNat ≠ 4294967295 := fun same => room (UInt32.toNat_inj.mp same)
  have next : (count + 1).toNat = count.toNat + 1 := by
    rw [UInt32.toNat_add]
    simp only [UInt32.toNat_ofNat]
    omega
  rcases Nat.lt_or_ge count.toNat 400 with below | above
  · rw [show min (count + 1) 400 = count + 1 from
      if_pos (UInt32.le_iff_toNat_le.mpr (by rw [next]; exact below)), next]
    omega
  · rw [show min (count + 1) 400 = 400 from if_neg fun le => by
      have fits := UInt32.le_iff_toNat_le.mp le
      rw [next] at fits
      simp only [UInt32.toNat_ofNat] at fits
      omega]
    decide

lemma TemporalBounded.averaged {start : Preprocessor} (h : TemporalBounded start self)
    (averaged : Averaged self after) : TemporalBounded start after := by
  intro pixel
  obtain ⟨low, high⟩ := h pixel
  obtain ⟨value, updated⟩ := averaged.average pixel
  rw [updated]
  split
  · next admitted =>
    rw [admitsValue, decide_eq_true_iff] at admitted
    exact ⟨RunningAverage.le_update _ low (by omega), RunningAverage.update_le _ high (by omega)⟩
  · exact ⟨low, high⟩

/-- What holds in every state of a run that starts with room for one more sample. -/
structure Learning (start p : Preprocessor) : Prop where
  room : p.temporalSampleCount ≠ 0xffffffff
  bounded : TemporalBounded start p

lemma Learning.adapted {start : Preprocessor} (h : Learning start self) (source : Plane) :
    Learning start (self.updateAdaptiveMultiplier source) where
  room := by
    rw [updateAdaptiveMultiplier_temporalSampleCount]
    exact h.room
  bounded := by
    unfold TemporalBounded
    rw [updateAdaptiveMultiplier_temporalGainAverage]
    exact h.bounded

lemma Learning.averaged {start : Preprocessor} (h : Learning start self)
    (averaged : Averaged self after) : Learning start after where
  room := by
    rw [averaged.count]
    intro same
    have few := (cappedCount h.room).2
    rw [same] at few
    exact absurd few (by decide)
  bounded := h.bounded.averaged averaged

lemma Learning.step {start : Preprocessor} {capture : Capture} (h : Learning start self)
    (ok : self.step weight capture = some after) : Learning start after := by
  rcases step_cases self weight capture with
    ⟨-, same⟩ | ⟨-, updates⟩
  · rw [same] at ok
    cases ok
    exact h
  · rw [updates] at ok
    have adapted := h.adapted (self.sourcePlane capture)
    exact adapted.averaged (updateTemporalGain_averaged adapted.room ok)

lemma normalizeGainMap_temporal (p : Preprocessor) :
    p.normalizeGainMap.gain = p.gain ∧
      p.normalizeGainMap.temporalGainAverage = p.temporalGainAverage ∧
      p.normalizeGainMap.temporalSampleCount = p.temporalSampleCount ∧
      p.normalizeGainMap.imageBase = p.imageBase := by
  unfold normalizeGainMap
  dsimp only
  split <;> exact ⟨rfl, rfl, rfl, rfl⟩

lemma initial_normalized {calibration : List UInt8} {imageBase : Plane} {sampleCount : UInt32}
    {start : Preprocessor}
    (begun : start = (initial calibration imageBase sampleCount).normalizeGainMap) :
    start.imageBase = imageBase ∧ start.temporalSampleCount = sampleCount := by
  obtain ⟨-, -, count, base⟩ := normalizeGainMap_temporal (initial calibration imageBase sampleCount)
  rw [begun, base, count]
  exact ⟨rfl, rfl⟩

lemma temporalBounded_new {calibration : List UInt8} {imageBase : Plane} {start : Preprocessor}
    (created : new calibration imageBase = .ok start) : TemporalBounded start start := by
  obtain ⟨-, rfl⟩ := new_eq_ok_iff.mp created
  obtain ⟨gain, average, -, -⟩ := normalizeGainMap_temporal (initial calibration imageBase
    (Calibration.readLe32 (Buffer.read calibration temporalSampleCountOffset 4)))
  intro pixel
  rw [gain, average]
  exact ⟨Nat.min_le_left _ _, Nat.le_max_left _ _⟩

/-- Learning is safe over every run exactly if the payload does not already count all the
samples that 32 bits can count. -/
theorem temporal_gain_learns_safely {weight : Weight} (center : ∀ sigma, weight sigma 0 = 65536)
    {calibration : List UInt8} {imageBase : Plane} {start : Preprocessor}
    (created : new calibration imageBase = .ok start) :
    LearnsSafely weight start ↔
      Calibration.getTemporalSampleCount calibration ≠ .ok 0xffffffff := by
  obtain ⟨valid, rfl⟩ := new_eq_ok_iff.mp created
  have counted : Calibration.getTemporalSampleCount calibration = .ok (Calibration.readLe32
      (Buffer.read calibration temporalSampleCountOffset 4)) := if_neg (not_not_intro valid.length)
  obtain ⟨-, -, count, -⟩ := normalizeGainMap_temporal (initial calibration imageBase
    (Calibration.readLe32 (Buffer.read calibration temporalSampleCountOffset 4)))
  rw [counted, Ne, Except.ok.injEq]
  constructor
  · intro safe full
    have checked := plainCapture_valid
    obtain ⟨learned, ok⟩ := Option.ne_none_iff_exists'.mp (safe.divides _ .start plainCapture)
    have counts := (safe.count _ .start plainCapture learned checked ok).1
    rw [step_valid checked] at ok
    rw [updateTemporalGain_count ok, updateAdaptiveMultiplier_temporalSampleCount, count] at counts
    simp only [initial] at counts
    rw [full] at counts
    exact absurd counts (by decide)
  · intro room
    have beginning : Learning _ _ := ⟨by rw [count]; exact room, temporalBounded_new created⟩
    have learning : ∀ reached, Reaches (step weight) (fun _ _ => True) _ reached →
        Learning _ reached := fun reached run =>
      run.invariant (Learning _) beginning fun before capture after holds _ ok => holds.step ok
    constructor
    · intro reached run capture
      rcases step_cases reached weight capture with
        ⟨-, same⟩ | ⟨-, updates⟩
      · rw [same]
        exact Option.some_ne_none _
      · rw [updates]
        exact Option.isSome_iff_ne_none.mp (updateTemporalGain_isSome center
          ((learning reached run).adapted _).room _ _)
    · intro reached run capture learned checked ok
      rw [step_valid checked] at ok
      have adapted := (learning reached run).adapted (reached.sourcePlane capture)
      rw [(updateTemporalGain_averaged adapted.room ok).count]
      exact cappedCount adapted.room
    · exact fun reached run => (learning reached run).bounded

theorem temporal_gain_learns_safely_plain : ∃ start,
    new (plainPayload 400) plainBase = .ok start ∧ LearnsSafely centerWeight start := by
  obtain ⟨start, created, -⟩ := uniform_plain
  refine ⟨start, created, (temporal_gain_learns_safely (fun _ => rfl) created).mpr ?_⟩
  rw [plainPayload, Calibration.getTemporalSampleCount_assemble, Ne, Except.ok.injEq]
  decide

/-- A payload that counts 4294967295 samples is accepted, and its first capture divides by
zero. -/
theorem temporal_gain_divides_by_zero : ∃ start,
    new (plainPayload 0xffffffff) plainBase = .ok start ∧
    start.step centerWeight plainCapture = none ∧ ¬ LearnsSafely centerWeight start := by
  obtain ⟨start, created, begun, -⟩ :=
    new_assemble (Vector.replicate pixels 0x2000) plainBase plainBase 0xffffffff
  obtain ⟨imageBase, samples⟩ := initial_normalized begun
  have full : Collect.collect (fun pixel : Fin pixels => temporalAverage
      ((start.updateAdaptiveMultiplier
        (start.sourcePlane plainCapture)).temporalGainAverage.get pixel)
      0xffffffff (0xffffffff + 1) 2000) = none := by
    apply Collect.collect_eq_none (i := ⟨0, by decide⟩)
    rw [temporalAverage, if_pos (by decide), if_pos (by decide)]
  have fails : start.step centerWeight plainCapture = none := by
    rw [step_valid plainCapture_valid, plainCapture_prepared, imageBase, plainBase_prepared,
      updateTemporalGain_plain, updateAdaptiveMultiplier_temporalSampleCount, samples, full]
    rfl
  exact ⟨start, created, fails, fun safe => safe.divides start .start plainCapture fails⟩

end GoodixSpi.Chicago.Preprocessor
