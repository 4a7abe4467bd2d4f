import GoodixSpi.Chicago.Match.Template

/-! What the matcher sees of a gallery sub-template. `visible` blanks everything else, and
every stage gives the same result on the blanked sub-template. -/

namespace GoodixSpi.Chicago

/-- Descriptor bytes of a gallery record that some stage compares. -/
def comparedByte (index : Nat) : Bool :=
  (4 ≤ index && index < 24) || (28 ≤ index && index < 36)

namespace FeatureRecord

variable (record : FeatureRecord)

def visible : FeatureRecord :=
  { record with
    foreground := record.foregroundClass
    strength := 0
    descriptor := Vector.ofFn fun index =>
      if comparedByte index then record.descriptor[index] else 0 }

@[simp] lemma visible_unsignedX : record.visible.unsignedX = record.unsignedX := rfl

@[simp] lemma visible_unsignedY : record.visible.unsignedY = record.unsignedY := rfl

@[simp] lemma visible_orientation : record.visible.orientation = record.orientation := rfl

@[simp] lemma visible_point : record.visible.point = record.point := rfl

@[simp] lemma visible_foregroundClass : record.visible.foregroundClass = record.foregroundClass := by
  simp only [foregroundClass, visible, UInt16.and_assoc, UInt16.and_self]

lemma descriptorWord_visible {offset : Nat} (compared : ∀ byte < 4, comparedByte (offset + byte)) :
    record.visible.descriptorWord offset = record.descriptorWord offset := by
  have bytes : (record.visible.descriptor.toList.drop offset).take 4 =
      (record.descriptor.toList.drop offset).take 4 := by
    refine List.ext_getElem? fun byte => ?_
    rw [List.getElem?_take, List.getElem?_take]
    by_cases inside : byte < 4
    · rw [if_pos inside, if_pos inside, List.getElem?_drop, List.getElem?_drop]
      by_cases here : offset + byte < 48
      · have kept := compared byte inside
        simp [visible, here, kept]
      · simp [Nat.le_of_not_lt here]
    · rw [if_neg inside, if_neg inside]
  simp only [descriptorWord, bytes]

end FeatureRecord

lemma hammingWords_visible (gallery probe : FeatureRecord) (offset probeOffset words : Nat)
    (compared : ∀ word < words, ∀ byte < 4, comparedByte (offset + 4 * word + byte)) :
    hammingWords gallery.visible offset probe probeOffset words =
      hammingWords gallery offset probe probeOffset words := by
  unfold hammingWords
  refine congrArg List.sum (List.map_congr_left fun word listed => ?_)
  rw [gallery.descriptorWord_visible (compared word (List.mem_range.mp listed))]

/-! ### The correspondences -/

lemma gatedDistance_visible (config : MatchCandidateConfig) (gallery : FeatureRecord) :
    gatedDistance config gallery.visible = gatedDistance config gallery := by
  funext probe
  have first := hammingWords_visible gallery probe 4 4 2 (by decide)
  have half := hammingWords_visible gallery probe 12 12 2 (by decide)
  have straight := hammingWords_visible gallery probe 20 20 1 (by decide)
  have shifted := hammingWords_visible gallery probe 20 24 1 (by decide)
  have straight' := hammingWords_visible gallery probe 28 28 1 (by decide)
  have shifted' := hammingWords_visible gallery probe 28 36 1 (by decide)
  simp only [gatedDistance, first, half, straight, shifted, straight', shifted']

variable (galleryRecords probeRecords : List FeatureRecord)

lemma updateCandidates_visible (config : MatchCandidateConfig) (rows : List CandidateRow) :
    updateCandidates (galleryRecords.map .visible) probeRecords config rows =
      updateCandidates galleryRecords probeRecords config rows := by
  have update : ∀ gallery : FeatureRecord, CandidateRow.update config gallery.visible probeRecords =
      CandidateRow.update config gallery probeRecords := by
    intro gallery
    funext row newIndex
    simp only [CandidateRow.update, gatedDistance_visible]
  unfold updateCandidates
  split
  · refine List.mapIdx_eq_mapIdx_iff.mpr fun oldIndex inside => ?_
    rw [List.getElem?_map]
    cases galleryRecords[oldIndex]? with
    | none => rfl
    | some gallery =>
      simp only [Option.map_some, update]
  · rfl

lemma candidateRows_visible (gallerySplit probeSplit firstHalfGate combinedGate : Nat) :
    candidateRows (galleryRecords.map .visible) gallerySplit probeRecords probeSplit firstHalfGate
        combinedGate =
      candidateRows galleryRecords gallerySplit probeRecords probeSplit firstHalfGate
        combinedGate := by
  simp only [candidateRows, List.length_map, updateCandidates_visible]

lemma selectCandidate_visible (limit : Nat) :
    selectCandidate limit (galleryRecords.map .visible) = selectCandidate limit galleryRecords := by
  have near : nearSelected (galleryRecords.map .visible) = nearSelected galleryRecords := by
    funext candidate existing
    simp only [nearSelected, List.getElem?_map]
    cases galleryRecords[candidate.newIndex]? with
    | none => rfl
    | some first =>
      cases galleryRecords[existing.newIndex]? with
      | none => rfl
      | some second => rfl
  funext selected candidate
  simp only [selectCandidate, near]

lemma selectCandidates_visible (candidates : List MatchCandidate)
    (limit bestMultiplier secondMultiplier : Nat) :
    selectCandidates (galleryRecords.map .visible) candidates limit bestMultiplier
        secondMultiplier =
      selectCandidates galleryRecords candidates limit bestMultiplier secondMultiplier := by
  simp only [selectCandidates, selectCandidate_visible]

lemma ordinaryCorrespondences_visible (gallerySplit probeSplit : Nat) :
    ordinaryCorrespondences (galleryRecords.map .visible) gallerySplit probeRecords probeSplit =
      ordinaryCorrespondences galleryRecords gallerySplit probeRecords probeSplit := by
  simp only [ordinaryCorrespondences, ordinaryCorrespondencesWithGates, List.length_map,
    candidateRows_visible]

lemma fallbackCorrespondences_visible (gallerySplit probeSplit : Nat) :
    fallbackCorrespondences (galleryRecords.map .visible) gallerySplit probeRecords probeSplit =
      fallbackCorrespondences galleryRecords gallerySplit probeRecords probeSplit := by
  simp only [fallbackCorrespondences, List.length_map, candidateRows_visible,
    selectCandidates_visible]

/-! ### The geometry and the overlap -/

lemma geometryConsensusRecords_visible (pairs : List Correspondence) (minimumInliers : Nat) :
    geometryConsensusRecords (galleryRecords.map .visible) probeRecords pairs minimumInliers =
      geometryConsensusRecords galleryRecords probeRecords pairs minimumInliers := by
  have points : matchedPoints (galleryRecords.map .visible) probeRecords pairs =
      matchedPoints galleryRecords probeRecords pairs := by
    unfold matchedPoints
    refine congrArg (List.take matchGeometryLimit) (List.filterMap_congr fun pair _ => ?_)
    rw [List.getElem?_map]
    cases galleryRecords[pair.oldIndex]? with
    | none => rfl
    | some gallery =>
      cases probeRecords[pair.newIndex]? with
      | none => rfl
      | some probe => rfl
  simp only [geometryConsensusRecords, points]

lemma overlapDistance_visible (probe : FeatureRecord) (position : Point) (gallery : FeatureRecord) :
    overlapDistance probe position gallery.visible = overlapDistance probe position gallery := by
  simp only [overlapDistance, FeatureRecord.visible_unsignedX, FeatureRecord.visible_unsignedY,
    FeatureRecord.visible_foregroundClass]

lemma nearestGallery_visible (probe : FeatureRecord) (position : Point) :
    nearestGallery (galleryRecords.map .visible) probe position =
      nearestGallery galleryRecords probe position := by
  simp only [nearestGallery, List.zipIdx_map, List.foldl_map, Prod.map_fst, Prod.map_snd,
    overlapDistance_visible, id]

lemma featureOverlapType24_visible (galleryWidth galleryHeight : Nat) (transform : Transform)
    (geometryCount : Nat) :
    featureOverlapType24 (galleryRecords.map .visible) probeRecords galleryWidth galleryHeight
        transform geometryCount =
      featureOverlapType24 galleryRecords probeRecords galleryWidth galleryHeight transform
        geometryCount := by
  have outcome : overlapOutcome (galleryRecords.map .visible) galleryWidth galleryHeight
      transform = overlapOutcome galleryRecords galleryWidth galleryHeight transform := by
    funext probe
    simp only [overlapOutcome, nearestGallery_visible, List.getElem?_map]
    cases (nearestGallery galleryRecords probe (transformedPoint transform probe.point)).1 with
    | none => rfl
    | some index =>
      rw [Option.bind_some, Option.bind_some]
      cases galleryRecords[index]? with
      | none => rfl
      | some gallery =>
        have straight := hammingWords_visible gallery probe 28 28 2 (by decide)
        have shifted := hammingWords_visible gallery probe 28 36 2 (by decide)
        simp only [Option.map_some, straight, shifted]
  simp only [featureOverlapType24, outcome]

/-! ### Sub-templates and schedules -/

def MetricData.visible (metricData : MetricData) : MetricData :=
  { metricData with
    secondary := Vector.replicate _ 0
    positionMap := Vector.replicate _ 0 }

/-- The group state, the relation base, the study and lineage counters and the live values
of a gallery sub-template are not read. -/
def SubtemplateView.visible (view : SubtemplateView) : SubtemplateView where
  activeCount := view.activeCount
  quality := view.quality
  coverage := view.coverage
  records := view.records.map .visible
  hasMetricData := view.hasMetricData
  metricData := view.metricData.map .visible
  densityPositivePercent := 0
  liveAuxiliary := Vector.replicate _ 0

lemma scoreSubtemplateType24_visible (gallery probe : SubtemplateView) :
    scoreSubtemplateType24 gallery.visible probe = scoreSubtemplateType24 gallery probe := by
  simp only [scoreSubtemplateType24, SubtemplateView.visible, ordinaryCorrespondences_visible,
    geometryConsensusRecords_visible, featureOverlapType24_visible]
  cases probe.metricData with
  | none => rfl
  | some new =>
    cases gallery.metricData with
    | none => rfl
    | some old => rfl

lemma consumeFallbackRecordsType24_visible (aggregation : MatchAggregation)
    (gallery probe : SubtemplateView) (selectorThreshold : Int) :
    aggregation.consumeFallbackRecordsType24 gallery.visible probe selectorThreshold =
      aggregation.consumeFallbackRecordsType24 gallery probe selectorThreshold := by
  simp only [MatchAggregation.consumeFallbackRecordsType24, SubtemplateView.visible,
    fallbackCorrespondences_visible, geometryConsensusRecords_visible]
  cases gallery.metricData with
  | none => rfl
  | some old =>
    cases probe.metricData with
    | none => rfl
    | some new => rfl

/-- An entry of a schedule as the matcher sees it. -/
def visibleEntry (entry : Nat × SubtemplateView) : Nat × SubtemplateView :=
  (entry.1, entry.2.visible)

variable (probe : SubtemplateView) (selectorThreshold : Int32)

lemma matchCandidate_visible (scan : MatchScan) (entry : Nat × SubtemplateView) :
    matchCandidate probe selectorThreshold scan (visibleEntry entry) =
      matchCandidate probe selectorThreshold scan entry := by
  obtain ⟨index, gallery⟩ := entry
  simp only [matchCandidate, visibleEntry, scoreSubtemplateType24_visible]
  cases gallery with
  | mk activeCount quality coverage records hasMetricData metricData =>
    cases metricData with
    | none => rfl
    | some metricData => rfl

lemma run_visible (schedule : List (Nat × SubtemplateView)) (state : MatchScan) :
    EarlyExit.run (matchCandidate probe selectorThreshold) (schedule.map visibleEntry) state =
      EarlyExit.run (matchCandidate probe selectorThreshold) schedule state := by
  have body : (fun scan entry => matchCandidate probe selectorThreshold scan (visibleEntry entry)) =
      matchCandidate probe selectorThreshold := by
    funext scan entry
    exact matchCandidate_visible probe selectorThreshold scan entry
  rw [EarlyExit.run_map, body]

lemma finish_visible (scan : MatchScan) (schedule : List (Nat × SubtemplateView)) :
    scan.finish (schedule.map visibleEntry) probe selectorThreshold =
      scan.finish schedule probe selectorThreshold := by
  have round : (fun aggregation entry =>
      scan.consumeFallback probe selectorThreshold aggregation (visibleEntry entry)) =
      scan.consumeFallback probe selectorThreshold := by
    funext aggregation entry
    simp only [MatchScan.consumeFallback, visibleEntry, consumeFallbackRecordsType24_visible]
  simp only [MatchScan.finish, List.foldl_map, round]

lemma matchSchedule_visible (schedule : List (Nat × SubtemplateView))
    (probePackedResolution : UInt32) :
    matchSchedule (schedule.map visibleEntry) probe probePackedResolution selectorThreshold =
      matchSchedule schedule probe probePackedResolution selectorThreshold := by
  simp only [matchSchedule, run_visible, finish_visible]

/-- Galleries of one size that look alike to the matcher get one result. -/
theorem matchTemplateType24_congr {e other : Enrollment} (count : other.count = e.count)
    (same : other.schedule.map visibleEntry = e.schedule.map visibleEntry) :
    other.matchTemplateType24 probe selectorThreshold =
      e.matchTemplateType24 probe selectorThreshold := by
  simp only [Enrollment.matchTemplateType24, count]
  split
  · rfl
  · cases probe.metricData with
    | none => rfl
    | some metricData =>
      dsimp only
      rw [← matchSchedule_visible, same, matchSchedule_visible]

end GoodixSpi.Chicago
