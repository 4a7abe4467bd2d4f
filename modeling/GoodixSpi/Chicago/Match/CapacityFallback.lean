import GoodixSpi.Chicago.Match.Template
import GoodixSpi.Chicago.Match.UniquePairs

/-! The relation of a live probe to a gallery sub-template that propagation does not reach. It is
estimated from points that are looked up with the two indices of each pair exchanged, and from
the gallery to the probe instead of from the probe to the gallery. -/

namespace GoodixSpi.Chicago

open CArithmetic

/-- `ordinary_correspondences_with_gates`, gallery first. -/
def capacityPairs (gallery probe : SubtemplateView) : List Correspondence :=
  ordinaryCorrespondencesWithGates gallery.records gallery.activeCount probe.records
    probe.activeCount 22 45

/-- One round of the loop over the pairs; none when it continues early. -/
def capacityPoint (gallery probe : SubtemplateView) (pair : Correspondence) : Option PointPair :=
  let probeIndex := pair.oldIndex
  let galleryIndex := pair.newIndex
  match gallery.records[galleryIndex]?, probe.records[probeIndex]? with
  | some galleryRecord, some probeRecord =>
    some { source := galleryRecord.point
           target := probeRecord.point
           sourceOrientation := galleryRecord.orientation.toInt
           targetOrientation := probeRecord.orientation.toInt }
  | _, _ => none

/-- The points that the geometry is estimated from. -/
def capacityPoints (gallery probe : SubtemplateView) : List PointPair :=
  ((capacityPairs gallery probe).filterMap (capacityPoint gallery probe)).take matchGeometryLimit

/-- The forest of thresholds. -/
def capacityIsAccepted (inlierCount : Nat) (metrics : Config1Metrics) : Bool :=
  inlierCount ≥ 15 ||
    (inlierCount ≥ 10 && (metrics.selectorScore > 210 || metrics.metricA ≥ 205)) ||
    (inlierCount ≥ 7 && (metrics.selectorScore > 220 || metrics.metricA ≥ 210)) ||
    (inlierCount ≥ 5 && (metrics.selectorScore > 228 || metrics.metricA ≥ 215))

/-- The relation that is stored for a geometry that was estimated from some points. -/
def capacityRelationFrom (gallery probe : SubtemplateView) (points : List PointPair) : Relation :=
  let geometry := estimateGeometry points 2 true
  let metrics : Config1Metrics :=
    if geometry.inlierCount > 4 ∧ gallery.hasMetricData = true ∧ probe.hasMetricData = true then
      match gallery.metricData, probe.metricData with
      | some old, some new => calculateConfig1Metrics new old geometry.transform
      | _, _ => ⟨0, 0, 0⟩
    else ⟨0, 0, 0⟩
  if capacityIsAccepted geometry.inlierCount metrics then
    ⟨Int32.ofNat geometry.inlierCount, geometry.transform⟩
  else ⟨-1, identityGroupTransform⟩

/-- `goodix_chicago_match_build_capacity_relation`; the relation it is given is overwritten. -/
def buildCapacityRelation : CapacityRelationBuilder := fun gallery probe _ =>
  capacityRelationFrom gallery probe (capacityPoints gallery probe)

/-! ### The pairs name records of both prints -/

section Pairs

variable {oldRecords newRecords : List FeatureRecord} {config : MatchCandidateConfig}

/-- The closest record of a candidate exists. -/
def MatchCandidate.Names (newRecords : List FeatureRecord) (candidate : MatchCandidate) : Prop :=
  (∀ index, candidate.bestIndex = some index → index < newRecords.length) ∧
    ∀ index, candidate.secondIndex = some index → index < newRecords.length

lemma MatchCandidate.Names.update {candidate : MatchCandidate} (names : candidate.Names newRecords)
    {index : Nat} (inside : index < newRecords.length) (distance : Nat) :
    (candidate.update distance index).Names newRecords := by
  unfold MatchCandidate.update
  split
  · refine ⟨fun best found => ?_, names.1⟩
    cases found
    exact inside
  · split
    · refine ⟨names.1, fun second found => ?_⟩
      cases found
      exact inside
    · exact names

lemma CandidateRow.names_update {old : FeatureRecord} {row : CandidateRow}
    (names : row.candidate.Names newRecords) (newIndex : Nat) :
    (CandidateRow.update config old newRecords row newIndex).candidate.Names newRecords := by
  unfold CandidateRow.update
  split
  · exact names
  · rename_i distance found
    obtain ⟨record, here, -⟩ := Option.bind_eq_some_iff.mp found
    exact names.update (List.getElem?_eq_some_iff.mp here).1 distance

lemma updateCandidates_names {rows : List CandidateRow}
    (names : ∀ row ∈ rows, row.candidate.Names newRecords) :
    ∀ row ∈ updateCandidates oldRecords newRecords config rows,
      row.candidate.Names newRecords := by
  have scanned : ∀ (old : FeatureRecord) (indices : List Nat) (row : CandidateRow),
      row.candidate.Names newRecords →
      (indices.foldl (CandidateRow.update config old newRecords) row).candidate.Names
        newRecords := by
    intro old indices
    induction indices with
    | nil => exact fun _ names => names
    | cons index rest ih => exact fun row names => ih _ (CandidateRow.names_update names index)
  unfold updateCandidates
  split
  · intro row listed
    obtain ⟨index, inside, rfl⟩ := List.mem_mapIdx.mp listed
    have earlier := names rows[index] (List.getElem_mem inside)
    split
    · exact earlier
    · split
      · exact scanned _ _ _ earlier
      · exact earlier
  · exact names

lemma length_updateCandidates (rows : List CandidateRow) :
    (updateCandidates oldRecords newRecords config rows).length = rows.length := by
  unfold updateCandidates
  split
  · exact List.length_mapIdx
  · rfl

lemma candidateRows_names {split newSplit firstHalfGate combinedGate : Nat} :
    ∀ row ∈ candidateRows oldRecords split newRecords newSplit firstHalfGate combinedGate,
      row.candidate.Names newRecords := by
  unfold candidateRows
  apply updateCandidates_names
  apply updateCandidates_names
  intro row listed
  obtain ⟨-, rfl⟩ := List.mem_replicate.mp listed
  constructor
  · intro index found
    cases found
  · intro index found
    cases found

lemma length_candidateRows {split newSplit firstHalfGate combinedGate : Nat} :
    (candidateRows oldRecords split newRecords newSplit firstHalfGate combinedGate).length =
      oldRecords.length := by
  unfold candidateRows
  rw [length_updateCandidates, length_updateCandidates, List.length_replicate]

lemma mem_selectedAfter {limit : Nat} {entry : Selected} {candidates : List (Option Selected)}
    (listed : entry ∈ selectedAfter limit newRecords candidates) : some entry ∈ candidates := by
  induction candidates using List.reverseRecOn with
  | nil => exact absurd listed List.not_mem_nil
  | append_singleton candidates last ih =>
    rw [selectedAfter_concat] at listed
    rw [List.mem_append, List.mem_singleton]
    cases last with
    | none => exact .inl (ih listed)
    | some candidate =>
      have sub := selectCandidate_subperm limit newRecords
        (selectedAfter limit newRecords candidates) candidate
      rcases List.mem_cons.mp (sub.subset listed) with rfl | earlier
      · exact .inr rfl
      · exact .inl (ih earlier)

/-- Every pair comes from the row of its gallery record. -/
lemma row_of_pair {split newSplit firstHalfGate combinedGate : Nat} {pair : Correspondence}
    (listed : pair ∈ ordinaryCorrespondencesWithGates oldRecords split newRecords newSplit
      firstHalfGate combinedGate) :
    ∃ row, (candidateRows oldRecords split newRecords newSplit firstHalfGate
        combinedGate)[pair.oldIndex]? = some row ∧
      row.candidate.bestIndex = some pair.newIndex := by
  unfold ordinaryCorrespondencesWithGates at listed
  split at listed
  · rw [selectCandidates_eq] at listed
    obtain ⟨entry, kept, rfl⟩ := List.mem_map.mp listed
    obtain ⟨⟨candidate, index⟩, numbered, passes⟩ := List.mem_map.mp (mem_selectedAfter kept)
    have here := List.mk_mem_zipIdx_iff_getElem?.mp numbered
    rw [List.getElem?_map, Option.map_eq_some_iff] at here
    obtain ⟨row, found, rfl⟩ := here
    unfold MatchCandidate.selected at passes
    split at passes
    · cases passes
    · next newIndex best =>
      split at passes
      · cases passes
      · cases passes
        exact ⟨row, found, best⟩
  · exact absurd listed List.not_mem_nil

/-- Every pair names a record of each print. -/
lemma mem_ordinaryCorrespondencesWithGates {split newSplit firstHalfGate combinedGate : Nat}
    {pair : Correspondence}
    (listed : pair ∈ ordinaryCorrespondencesWithGates oldRecords split newRecords newSplit
      firstHalfGate combinedGate) :
    pair.oldIndex < oldRecords.length ∧ pair.newIndex < newRecords.length := by
  obtain ⟨row, found, best⟩ := row_of_pair listed
  have inside := (List.getElem?_eq_some_iff.mp found).1
  rw [length_candidateRows] at inside
  exact ⟨inside, (candidateRows_names row (List.mem_of_getElem? found)).1 _ best⟩

lemma length_ordinaryCorrespondencesWithGates {split newSplit firstHalfGate combinedGate : Nat} :
    (ordinaryCorrespondencesWithGates oldRecords split newRecords newSplit firstHalfGate
      combinedGate).length ≤ matchPairLimit := by
  unfold ordinaryCorrespondencesWithGates
  split
  · rw [selectCandidates_eq, List.length_map]
    exact length_foldl_selectCandidate matchPairLimit newRecords _ [] (Nat.zero_le _)
  · exact Nat.zero_le _

end Pairs

/-! ### When the exchange makes no difference -/

/-- Both prints have the same point and orientation under an index. -/
def AgreeAt (gallery probe : SubtemplateView) (index : Nat) : Prop :=
  ∃ g p, gallery.records[index]? = some g ∧ probe.records[index]? = some p ∧
    g.point = p.point ∧ g.orientation = p.orientation

/-- Two partial maps, one of them defined on the whole list. -/
lemma filterMap_eq_filterMap_iff {α β : Type} {f g : α → Option β} {l : List α}
    (defined : ∀ a ∈ l, (g a).isSome) :
    l.filterMap f = l.filterMap g ↔ ∀ a ∈ l, f a = g a := by
  constructor
  · intro same
    induction l with
    | nil => exact fun a listed => absurd listed List.not_mem_nil
    | cons a l ih =>
      have rest : ∀ b ∈ l, (g b).isSome := fun b listed => defined b (List.mem_cons_of_mem _ listed)
      obtain ⟨c, there⟩ := Option.isSome_iff_exists.mp (defined a List.mem_cons_self)
      rw [List.filterMap_cons_some there] at same
      cases here : f a with
      | none =>
        have full := List.filterMap_length_eq_length.mpr rest
        have shorter := List.length_filterMap_le f l
        rw [List.filterMap_cons_none here] at same
        have lengths := congrArg List.length same
        rw [List.length_cons] at lengths
        omega
      | some b =>
        rw [List.filterMap_cons_some here, List.cons.injEq] at same
        refine List.forall_mem_cons.mpr ⟨?_, ih rest same.2⟩
        rw [here, there, same.1]
  · exact List.filterMap_congr

lemma capacityPairs_valid {gallery probe : SubtemplateView} {pair : Correspondence}
    (listed : pair ∈ capacityPairs gallery probe) :
    pair.oldIndex < gallery.records.length ∧ pair.newIndex < probe.records.length :=
  mem_ordinaryCorrespondencesWithGates listed

/-- The limit on the points is above the one on the pairs. -/
lemma take_filterMap_capacityPairs (gallery probe : SubtemplateView)
    (f : Correspondence → Option PointPair) :
    ((capacityPairs gallery probe).filterMap f).take matchGeometryLimit =
      (capacityPairs gallery probe).filterMap f := by
  apply List.take_of_length_le
  calc ((capacityPairs gallery probe).filterMap f).length
      ≤ (capacityPairs gallery probe).length := List.length_filterMap_le f _
    _ ≤ matchPairLimit := length_ordinaryCorrespondencesWithGates
    _ ≤ matchGeometryLimit := by decide

lemma capacityPoint_eq_iff {gallery probe : SubtemplateView} {pair : Correspondence}
    {g p : FeatureRecord} (old : gallery.records[pair.oldIndex]? = some g)
    (new : probe.records[pair.newIndex]? = some p) :
    capacityPoint gallery probe pair = some (pointPair g p) ↔
      AgreeAt gallery probe pair.newIndex ∧ AgreeAt gallery probe pair.oldIndex := by
  constructor
  · intro same
    unfold capacityPoint at same
    cases foundGallery : gallery.records[pair.newIndex]? with
    | none => simp [foundGallery] at same
    | some galleryRecord =>
      cases foundProbe : probe.records[pair.oldIndex]? with
      | none => simp [foundGallery, foundProbe] at same
      | some probeRecord =>
        simp only [foundGallery, foundProbe, Option.some.injEq] at same
        obtain ⟨sources, targets, sourceTurns, targetTurns⟩ := PointPair.mk.inj same
        exact ⟨⟨galleryRecord, p, foundGallery, new, sources, Int16.toInt_inj.mp sourceTurns⟩,
          ⟨g, probeRecord, old, foundProbe, targets.symm, (Int16.toInt_inj.mp targetTurns).symm⟩⟩
  · rintro ⟨⟨g', p', foundGallery, foundNew, points, turns⟩,
      ⟨g'', p'', foundOld, foundProbe, points', turns'⟩⟩
    rw [new, Option.some.injEq] at foundNew
    rw [old, Option.some.injEq] at foundOld
    subst foundNew foundOld
    unfold capacityPoint pointPair
    simp only [foundGallery, foundProbe, points, turns, points', turns']

/-- The geometry is estimated from the matched records in the stored direction, probe to gallery,
exactly if at both indices of every pair the two prints have the same point and orientation. -/
theorem capacityPoints_stored_iff (gallery probe : SubtemplateView) :
    capacityPoints gallery probe =
        matchedPoints gallery.records probe.records (capacityPairs gallery probe) ↔
      ∀ pair ∈ capacityPairs gallery probe,
        AgreeAt gallery probe pair.newIndex ∧ AgreeAt gallery probe pair.oldIndex := by
  have stored : ∀ pair ∈ capacityPairs gallery probe, ∃ g p,
      gallery.records[pair.oldIndex]? = some g ∧ probe.records[pair.newIndex]? = some p := by
    intro pair listed
    obtain ⟨old, new⟩ := capacityPairs_valid listed
    exact ⟨_, _, List.getElem?_eq_getElem old, List.getElem?_eq_getElem new⟩
  unfold capacityPoints matchedPoints
  rw [take_filterMap_capacityPairs, take_filterMap_capacityPairs, filterMap_eq_filterMap_iff]
  · refine forall₂_congr fun pair listed => ?_
    obtain ⟨g, p, old, new⟩ := stored pair listed
    rw [← capacityPoint_eq_iff old new]
    simp only [old, new]
  · intro pair listed
    obtain ⟨g, p, old, new⟩ := stored pair listed
    simp only [old, new, Option.isSome_some]

/-! ### A print whose records are in another order -/

def spotView (records : List FeatureRecord) : SubtemplateView where
  activeCount := 0
  quality := 0
  coverage := 0
  records := records
  hasMetricData := false
  metricData := none
  densityPositivePercent := 0
  liveAuxiliary := Vector.replicate 6 0

def orderedSpots : SubtemplateView :=
  spotView [spotRecord 0 0 0 0, spotRecord 0x400 0 0xff 0, spotRecord 0x800 0 0 0xff]

/-- The same three records, the first one last. -/
def turnedSpots : SubtemplateView :=
  spotView [spotRecord 0x400 0 0xff 0, spotRecord 0x800 0 0 0xff, spotRecord 0 0 0 0]

/-- Each record is matched with its copy, and none of the points are those of a pair. -/
theorem turned_points_not_stored :
    capacityPairs orderedSpots turnedSpots = [⟨0, 2⟩, ⟨1, 0⟩, ⟨2, 1⟩] ∧
      capacityPoints orderedSpots turnedSpots ≠
        matchedPoints orderedSpots.records turnedSpots.records
          (capacityPairs orderedSpots turnedSpots) := by
  have pairs : capacityPairs orderedSpots turnedSpots = [⟨0, 2⟩, ⟨1, 0⟩, ⟨2, 1⟩] := by
    decide +kernel
  refine ⟨pairs, ?_⟩
  unfold capacityPoints
  rw [pairs]
  decide +kernel

end GoodixSpi.Chicago
