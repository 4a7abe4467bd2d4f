import GoodixSpi.Chicago.Enrollment.MetricMaps
import GoodixSpi.Chicago.Feature.Extraction
import GoodixSpi.Chicago.Preprocess.CheckedCapture
import GoodixSpi.Chicago.Preprocess.ResolutionMap
import GoodixSpi.Driver.EnrolledPrint

/-! The probe that is made of a frame. What comes out of the preprocessor and the extraction is what
enrollment, matching and study ask of a probe, so that a stored print outlives any frames. -/

namespace GoodixSpi.Driver

open Chicago

/-! ### `goodix_chicago_runtime_prepare_probe` -/

/-- `GoodixChicagoRuntimeProbe`. -/
structure LiveProbe where
  enrollment : Enrollment
  view : SubtemplateView

/-- `GOODIX_CHICAGO_FEATURE_RECORD_LIMIT`. -/
abbrev featureRecordLimit : ℕ := 120

/-- `goodix_chicago_feature_build_live_auxiliary`. -/
def buildLiveAuxiliary (resolutionPeakState : ℤ) (packedResolution : UInt32) : Vector UInt8 6 :=
  #v[UInt8.ofInt resolutionPeakState, 0, 0, (((packedResolution >>> 8) &&& 7) + 4).toUInt8, 0, 0]

/-- What is inserted into the enrollment of the probe. -/
def liveSample (enhanced : FeatureImage) (input : NeighborInput) (packedResolution : UInt32) :
    Sample where
  records := input.records.take input.count
  activeCount := input.active
  quality := UInt32.ofNat (captureMetrics enhanced).quality
  coverage := UInt32.ofNat (captureMetrics enhanced).coverage
  metricData := some { buildMetricData enhanced with packedResolution }

/-- The probe around a sample. -/
def exposeProbe (sample : Sample) (consensus : FeatureConsensus) (auxiliary : Vector UInt8 6) :
    Capture LiveProbe :=
  match Enrollment.new.insertFirst sample with
  | .error error => .failed (.ofLibrary error)
  | .ok (enrollment, _) =>
    match enrollment.subtemplates[0]? with
    | none => .failed (.ofLibrary
        ⟨.invalidData, "gdix51c0: could not expose Chicago runtime probe"⟩)
    | some subtemplate => .prepared ⟨enrollment, { subtemplate.view with
        densityPositivePercent := UInt32.ofNat consensus.positivePercent
        liveAuxiliary := auxiliary }⟩

/-- What is made of an image that passed the preprocessor. -/
def probeOfImage (imageBase raw : Plane) (enhanced : FeatureImage) :
    Option (Capture LiveProbe) := do
  let (input, consensus) ← extractSubtemplateFull enhanced featureRecordLimit
  if input.count = 0 then some (.rejected .noFeatures)
  else
    let (labels, peakState) ← buildResolutionMapFull imageBase raw
    let packedResolution := packResolutionCode (classifyResolutionLabels 0x18 labels pixels
      pixels).code
    some (exposeProbe (liveSample enhanced input packedResolution) consensus
      (buildLiveAuxiliary peakState packedResolution))

/-- None where the code divides by zero. -/
def prepareProbe (self : Preprocessor) (weight : Weight) (capture : Preprocessor.Capture) :
    Option (Capture LiveProbe × Preprocessor) := do
  let outcome ← self.checkedCapture weight capture
  let made ← match outcome.status with
    | .badInput => some (.rejected .badInput)
    | .poorCapture => some (.rejected .poorCapture)
    | .ok => probeOfImage outcome.preprocessor.imageBase capture.raw outcome.enhanced
  some (made, outcome.preprocessor)

/-- The sample that the driver takes from the probe. -/
def LiveProbe.sample (probe : LiveProbe) : Sample where
  records := probe.view.records
  activeCount := probe.view.activeCount
  quality := probe.view.quality
  coverage := probe.view.coverage
  metricData := probe.view.metricData

/-! ### The probe -/

/-- What is known of every probe. -/
structure LiveProbe.Sound (probe : LiveProbe) : Prop where
  studyable : probe.view.Studyable
  proper : probe.sample.Proper
  kept : probe.enrollment.samples = [probe.sample]
  storable : probe.enrollment.Storable
  quality : probe.view.quality ≤ 100
  coverage : probe.view.coverage ≤ 100
  scale : 4 ≤ probe.view.liveAuxiliary.get 3 ∧ probe.view.liveAuxiliary.get 3 ≤ 9

lemma foregroundClass_of_polarity {record : FeatureRecord} (active : Prop) [Decidable active]
    (polarity : record.polarity = if active then 0 else 1) :
    record.foregroundClass = if active then 0 else 1 := by
  have low : record.foregroundClass.toNat = record.polarity := by
    rw [FeatureRecord.foregroundClass, UInt16.toNat_and]
    exact Nat.and_two_pow_sub_one_eq_mod _ 2
  refine UInt16.toNat_inj.mp ?_
  rw [low, polarity]
  split <;> rfl

lemma captureMetrics_le (enhanced : FeatureImage) :
    (captureMetrics enhanced).quality ≤ 100 ∧ (captureMetrics enhanced).coverage ≤ 100 := by
  unfold captureMetrics finalizeMetrics
  dsimp only
  omega

lemma ofNat_le_hundred {value : ℕ} (small : value ≤ 100) : UInt32.ofNat value ≤ 100 := by
  rw [UInt32.le_iff_toNat_le, UInt32.toNat_ofNat', Nat.mod_eq_of_lt (by omega)]
  exact small

lemma liveSample_proper {enhanced : FeatureImage} {input : NeighborInput}
    (extracted : input.Extracted enhanced featureRecordLimit) (packedResolution : UInt32) :
    (liveSample enhanced input packedResolution).Proper where
  metric := rfl
  prepared record listed := (extracted.extracted record listed).prepared
  classified index record found :=
    foregroundClass_of_polarity _ (extracted.polarity index record found)

/-- The first insertion takes every sample that fits. -/
lemma insertFirst_new {sample : Sample} (few : sample.records.length ≤ subtemplateRecordLimit)
    (active : sample.activeCount ≤ sample.records.length) :
    ∃ enrollment result, Enrollment.new.insertFirst sample = .ok (enrollment, result) ∧
      enrollment.subtemplates = [.fresh sample.records sample.activeCount sample.quality
        sample.coverage sample.metricData 0] := by
  have fits : ¬(sample.records.length > Enrollment.new.recordLimit ∨
      sample.activeCount > sample.records.length) := by
    rw [not_or, not_lt, not_lt]
    exact ⟨few, active⟩
  unfold Enrollment.insertFirst
  rw [if_neg (by decide), if_neg fits]
  exact ⟨_, _, rfl, rfl⟩

lemma buildLiveAuxiliary_scale (resolutionPeakState : ℤ) : ∀ packedResolution ∈
    [(0 : UInt32), 0x100, 0x200, 0x400, 0x500],
    4 ≤ (buildLiveAuxiliary resolutionPeakState packedResolution).get 3 ∧
      (buildLiveAuxiliary resolutionPeakState packedResolution).get 3 ≤ 9 := by
  intro packedResolution listed
  simp only [List.mem_cons, List.not_mem_nil, or_false] at listed
  change (4 : UInt8) ≤ (((packedResolution >>> 8) &&& 7) + 4).toUInt8 ∧
    (((packedResolution >>> 8) &&& 7) + 4).toUInt8 ≤ (9 : UInt8)
  rcases listed with rfl | rfl | rfl | rfl | rfl
  all_goals exact ⟨by decide, by decide⟩

lemma exposeProbe_sound {enhanced : FeatureImage} {input : NeighborInput}
    (extracted : input.Extracted enhanced featureRecordLimit) {packedResolution : UInt32}
    (packed : packedResolution ∈ [(0 : UInt32), 0x100, 0x200, 0x400, 0x500])
    (consensus : FeatureConsensus) (resolutionPeakState : ℤ) :
    ∃ probe : LiveProbe, exposeProbe (liveSample enhanced input packedResolution) consensus
      (buildLiveAuxiliary resolutionPeakState packedResolution) = .prepared probe ∧
        probe.Sound := by
  have proper := liveSample_proper extracted packedResolution
  have length : (liveSample enhanced input packedResolution).records.length = input.count :=
    List.length_take_of_le extracted.fits
  have few : (liveSample enhanced input packedResolution).records.length ≤
      subtemplateRecordLimit := length ▸ extracted.few
  have active : (liveSample enhanced input packedResolution).activeCount ≤
      (liveSample enhanced input packedResolution).records.length := length ▸ extracted.active
  obtain ⟨enrollment, result, ok, listed⟩ := insertFirst_new few active
  have storable := (Enrollment.madeOfProper_new.insertFirst proper ok).storable
  have metrics := captureMetrics_le enhanced
  unfold exposeProbe
  rw [ok]
  dsimp only
  rw [listed]
  refine ⟨_, rfl, ⟨rfl, rfl, few, active, proper.prepared, proper.classified⟩,
    ⟨rfl, proper.prepared, proper.classified⟩, ?_, storable, ofNat_le_hundred metrics.1,
    ofNat_le_hundred metrics.2, buildLiveAuxiliary_scale _ _ packed⟩
  rw [Enrollment.samples, listed]
  rfl

/-! ### The records -/

lemma maskRefuses_of_empty {enhanced : FeatureImage} (empty : ∀ x y, buildMask enhanced x y = 0)
    {record : FeatureRecord} (extracted : record.Extracted) :
    maskRefuses (buildMask enhanced) record = true := by
  have column : (record.unsignedX + 0x80) / 0x100 < imageWidth := by
    have right := extracted.right
    simp only [imageWidth] at right ⊢
    omega
  have row : (record.unsignedY + 0x80) / 0x100 < imageHeight := by
    have bottom := extracted.bottom
    simp only [imageHeight] at bottom ⊢
    omega
  unfold maskRefuses
  dsimp only
  rw [decide_eq_true column, decide_eq_true row, empty]
  rfl

/-- Beside the feature mask there are no records. -/
lemma no_records {enhanced : FeatureImage} (empty : ∀ x y, buildMask enhanced x y = 0)
    {capacity : ℕ} {input : NeighborInput} (extracted : input.Extracted enhanced capacity) :
    input.count = 0 := by
  by_contra some_
  have length := List.length_take_of_le extracted.fits
  obtain ⟨record, listed⟩ := List.exists_mem_of_length_pos (l := input.records.take input.count)
    (by omega)
  have kept := extracted.kept record listed
  rw [maskRefuses_of_empty empty (extracted.extracted record listed)] at kept
  cases kept

lemma buildMask_uniform (value : UInt8) (x y : ℕ) :
    buildMask (columnImage fun _ => value) x y = 0 := by
  rw [buildMask_columnImage, columnMask]
  simp only [columnMagnitude_uniform, List.map_const', List.sum_replicate, smul_eq_mul, mul_zero]
  rfl

lemma buildResolutionMapFull_returns (imageBase raw : Plane) :
    Checked.Returns (buildResolutionMapFull imageBase raw) fun found =>
      Labelled buildResolutionInputMask found.1 := by
  unfold buildResolutionMapFull
  exact buildResolutionMapLabelsFull_returns _ _

/-- An extracted image gives a sound probe, or no probe if it has no records. -/
lemma probeOfImage_made (imageBase raw : Plane) {enhanced : FeatureImage} {input : NeighborInput}
    {consensus : FeatureConsensus} (run : extractSubtemplateFull enhanced featureRecordLimit =
      some (input, consensus)) (extracted : input.Extracted enhanced featureRecordLimit) :
    input.count = 0 ∧ probeOfImage imageBase raw enhanced = some (.rejected .noFeatures) ∨
      input.count ≠ 0 ∧ ∃ probe : LiveProbe,
        probeOfImage imageBase raw enhanced = some (.prepared probe) ∧ probe.Sound := by
  unfold probeOfImage
  rw [run, Option.bind_eq_bind, Option.bind_some]
  by_cases none : input.count = 0
  · exact .inl ⟨none, if_pos none⟩
  · obtain ⟨⟨labels, peakState⟩, mapped, labelled⟩ := buildResolutionMapFull_returns imageBase raw
    have packed := (classifyResolutionLabels_spec 0x18 labelled).packed
    obtain ⟨probe, exposed, sound⟩ := exposeProbe_sound extracted packed consensus peakState
    refine .inr ⟨none, probe, ?_, sound⟩
    dsimp only
    rw [if_neg none, mapped, Option.bind_eq_bind, Option.bind_some]
    exact congrArg some exposed

/-! ### The frame -/

variable {self after : Preprocessor} {weight : Weight} {capture : Preprocessor.Capture}

/-- What becomes of a frame. -/
inductive Becomes (self : Preprocessor) (capture : Preprocessor.Capture) : Capture LiveProbe → Prop
  | badInput (refused : Preprocessor.mode24RawInputIsValid (prepareFrame capture.raw) = false) :
      Becomes self capture (.rejected .badInput)
  | poorCapture (covers : pixels / 5 <
      (enabledPixels (self.captureMask capture)).length) :
      Becomes self capture (.rejected .poorCapture)
  | noFeatures : Becomes self capture (.rejected .noFeatures)
  | prepared (probe : LiveProbe) (sound : probe.Sound)
      (touched : ∃ pixel, 24 ≤ Preprocessor.pixelDifference (prepareFrame capture.raw)
        (prepareFrame self.imageBase) pixel) : Becomes self capture (.prepared probe)

lemma probeOfImage_becomes (imageBase raw : Plane) {enhanced : FeatureImage}
    (white : ∀ pixel, (self.captureMask capture).get pixel = 0 → enhanced.get pixel = 0xff) :
    (∃ made, probeOfImage imageBase raw enhanced = some made ∧ Becomes self capture made) ∨
      probeOfImage imageBase raw enhanced = none ∧ FlatSomewhere enhanced := by
  rcases extractSubtemplateFull_cases enhanced featureRecordLimit with
    ⟨input, consensus, run, extracted⟩ | ⟨failed, flat⟩
  · left
    rcases probeOfImage_made imageBase raw run extracted with
      ⟨-, made⟩ | ⟨some_, probe, made, sound⟩
    · exact ⟨_, made, .noFeatures⟩
    · refine ⟨_, made, .prepared probe sound ?_⟩
      -- an untouched sensor leaves a white image, which has no records
      by_contra untouched
      simp only [not_exists, not_le] at untouched
      have empty := Preprocessor.captureMask_untouched untouched
      have blank : enhanced = columnImage fun _ => 0xff := by
        rw [← uniform_eq]
        exact Vector.ext fun pixel inside =>
          (white ⟨pixel, inside⟩ (empty ⟨pixel, inside⟩)).trans (Vector.getElem_replicate _).symm
      rw [blank] at extracted
      exact some_ (no_records (buildMask_uniform 0xff) extracted)
  · right
    unfold probeOfImage
    rw [failed]
    exact ⟨rfl, flat⟩

/-- Where the code divides by zero: the update of the gain, or the extraction. -/
def DividesByZero (self : Preprocessor) (weight : Weight) (capture : Preprocessor.Capture) : Prop :=
  self.buildEnhancedChecked weight capture = none ∨
    ∃ outcome ∈ self.checkedCapture weight capture,
      outcome.status = .ok ∧ FlatSomewhere outcome.enhanced

lemma prepareProbe_cases (self : Preprocessor) (weight : Weight) (capture : Preprocessor.Capture) :
    (∃ made after, prepareProbe self weight capture = some (made, after) ∧
        self.buildEnhancedChecked weight capture = some after ∧ Becomes self capture made) ∨
      prepareProbe self weight capture = none ∧ DividesByZero self weight capture := by
  have teaches := @Preprocessor.checkedCapture_preprocessor self weight capture
  unfold prepareProbe DividesByZero
  rcases @Preprocessor.checkedCapture_cases self weight capture with ⟨refused, result⟩ |
    ⟨-, status, enhanced, judged, white, result⟩
  · rw [result] at teaches ⊢
    exact .inl ⟨_, self, rfl, teaches.symm, .badInput refused⟩
  · cases learned : self.buildEnhancedChecked weight capture with
    | none =>
      rw [learned] at result
      rw [result]
      exact .inr ⟨rfl, .inl rfl⟩
    | some after =>
      rw [learned, Option.map_some] at result
      rw [result, Option.bind_eq_bind, Option.bind_some]
      cases judged with
      | poorCapture low covers => exact .inl ⟨_, after, rfl, rfl, .poorCapture covers⟩
      | ok =>
        dsimp only
        rcases probeOfImage_becomes after.imageBase capture.raw white with
          ⟨made, run, becomes⟩ | ⟨failed, flat⟩
        · rw [run]
          exact .inl ⟨made, after, rfl, rfl, becomes⟩
        · rw [failed]
          exact .inr ⟨rfl, .inr ⟨_, rfl, rfl, flat⟩⟩

end GoodixSpi.Driver
