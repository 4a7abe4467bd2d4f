import GoodixSpi.Chicago.Feature.Candidates
import GoodixSpi.Chicago.Feature.Descriptor
import GoodixSpi.Chicago.Feature.Gradients
import GoodixSpi.Chicago.Feature.Survivors

/-! The extraction of the records of an image, from its scale space to the stage that divides them.
Whatever the image, the records that come out have the form in which the rest of the library takes
them. -/

namespace GoodixSpi.Chicago

open FeatureRecord

/-! ### The strongest candidates -/

structure FeatureRank where
  strength : Int32
  index : UInt32

/-- Whether an entry gives way to a rank that comes after it. -/
def rankMakesRoom (earlier rank : FeatureRank) : Bool :=
  decide (earlier.strength > rank.strength ∨
    earlier.strength = rank.strength ∧ earlier.index > rank.index)

def Materialized.rank (materialized : Materialized) : FeatureRank :=
  ⟨materialized.rankStrength, materialized.rankIndex⟩

/-- All candidates where they fit, else the first ones by rank. -/
def selectStrongest (capacity : ℕ) (collected : List Materialized) : List Materialized :=
  if collected.length > capacity then
    ((InsertionSort.sort rankMakesRoom (collected.map Materialized.rank)).take capacity).filterMap
      fun rank => collected[rank.index.toNat]?
  else collected

/-! ### `goodix_chicago_feature_extract_subtemplate_full` -/

/-- `COLLECTION_CAPACITY`. -/
abbrev collectionCapacity : ℕ := 600

def extractionImages (enhanced : FeatureImage) : FeatureImages :=
  let gradients := buildGradients (buildGradientInput (buildPreparedImage enhanced))
  { featureSource := buildSource enhanced
    magnitude := gradients.1
    orientation := gradients.2 }

def describeCandidate (images : FeatureImages) (materialized : Materialized) : FeatureRecord :=
  finalizeRecord
    (buildDescriptor images.magnitude images.orientation materialized.aux materialized.record)

/-- The records that are handed to the last stage. -/
def extractRecords (enhanced : FeatureImage) (capacity : ℕ) : Option (List FeatureRecord) :=
  let images := extractionImages enhanced
  (collectCandidates images collectionCapacity (buildScaleSpace enhanced)).map fun collected =>
    (selectStrongest capacity collected).map (describeCandidate images)

/-- None where the interpolation of an orientation divides by zero. -/
def extractSubtemplateFull (enhanced : FeatureImage) (capacity : ℕ) :
    Option (NeighborInput × FeatureConsensus) :=
  (extractRecords enhanced capacity).bind fun records =>
    prepareSubtemplateFull (records.length + 2) enhanced records

/-! ### Which candidates are selected -/

section Selection

variable {capacity : ℕ} {collected : List Materialized}

/-- Every candidate carries its own place. -/
def Indexed (collected : List Materialized) : Prop :=
  ∀ (index : ℕ) materialized, collected[index]? = some materialized →
    materialized.rankIndex.toNat = index

lemma rankMakesRoom_iff (a b : FeatureRank) : rankMakesRoom a b = true ↔
    b.strength.toInt < a.strength.toInt ∨
      a.strength.toInt = b.strength.toInt ∧ b.index.toNat < a.index.toNat := by
  rw [rankMakesRoom, decide_eq_true_eq, gt_iff_lt, gt_iff_lt, Int32.lt_iff_toInt_lt,
    UInt32.lt_iff_toNat_lt, ← Int32.toInt_inj]

lemma rank_asymmetric (a b : FeatureRank) (room : rankMakesRoom a b) : ¬rankMakesRoom b a := by
  rw [rankMakesRoom_iff] at *
  omega

lemma rank_transitive (a b c : FeatureRank) (first : ¬rankMakesRoom a b)
    (second : ¬rankMakesRoom b c) : ¬rankMakesRoom a c := by
  rw [rankMakesRoom_iff] at *
  omega

/-- Looking the ranks up again gives the candidates back. -/
lemma filterMap_rank (indexed : Indexed collected) :
    (collected.map Materialized.rank).filterMap (fun rank => collected[rank.index.toNat]?) =
      collected := by
  rw [List.filterMap_map]
  have found : ∀ materialized ∈ collected,
      ((fun rank : FeatureRank => collected[rank.index.toNat]?) ∘ Materialized.rank) materialized =
        some materialized := by
    intro materialized listed
    obtain ⟨index, inside, rfl⟩ := List.mem_iff_getElem.mp listed
    have here := List.getElem?_eq_getElem inside
    rw [Function.comp_apply, Materialized.rank, indexed index _ here, here]
  rw [List.filterMap_congr found, List.filterMap_some]

/-- The selected candidates are some of those that were collected, as many as there is room for, and
none that was left out is stronger. -/
theorem selectStrongest_ranked (indexed : Indexed collected) :
    (selectStrongest capacity collected).length = min capacity collected.length ∧
      ∃ dropped, (selectStrongest capacity collected ++ dropped).Perm collected ∧
        ∀ kept ∈ selectStrongest capacity collected, ∀ other ∈ dropped,
          kept.rankStrength.toInt ≤ other.rankStrength.toInt := by
  unfold selectStrongest
  split
  · next many =>
    let sorted := InsertionSort.sort rankMakesRoom (collected.map Materialized.rank)
    let lookup (rank : FeatureRank) : Option Materialized := collected[rank.index.toNat]?
    change (((sorted.take capacity).filterMap lookup).length = _) ∧
      ∃ dropped, (((sorted.take capacity).filterMap lookup) ++ dropped).Perm collected ∧
        ∀ kept ∈ (sorted.take capacity).filterMap lookup, _
    have shuffled : (sorted.filterMap lookup).Perm collected := by
      have same := (@InsertionSort.sort_perm _ rankMakesRoom
        (collected.map Materialized.rank)).filterMap lookup
      rwa [filterMap_rank indexed] at same
    -- every rank is found, under its own strength
    have known : ∀ rank ∈ sorted, ∃ materialized, lookup rank = some materialized ∧
        materialized.rank = rank := by
      intro rank listed
      obtain ⟨materialized, present, rfl⟩ :=
        List.mem_map.mp ((InsertionSort.sort_perm _).mem_iff.mp listed)
      obtain ⟨index, inside, rfl⟩ := List.mem_iff_getElem.mp present
      have here := List.getElem?_eq_getElem inside
      exact ⟨_, by rw [← here]; exact congrArg _ (indexed index _ here), rfl⟩
    have size : sorted.length = collected.length := by
      rw [(InsertionSort.sort_perm _).length_eq, List.length_map]
    have all : ((sorted.take capacity).filterMap lookup).length = (sorted.take capacity).length :=
      List.filterMap_length_eq_length.mpr fun rank listed => by
        obtain ⟨materialized, found, -⟩ := known rank (List.mem_of_mem_take listed)
        rw [found]
        rfl
    refine ⟨by rw [all, List.length_take, size], (sorted.drop capacity).filterMap lookup, ?_, ?_⟩
    · rwa [← List.filterMap_append, List.take_append_drop]
    · intro kept inFront other behind
      obtain ⟨rank, listed, found⟩ := List.mem_filterMap.mp inFront
      obtain ⟨otherRank, otherListed, otherFound⟩ := List.mem_filterMap.mp behind
      have stays :=
        InsertionSort.sort_take_le rank_asymmetric rank_transitive _ _ listed otherListed
      obtain ⟨_, here, rfl⟩ := known rank (List.mem_of_mem_take listed)
      obtain ⟨_, there, rfl⟩ := known otherRank (List.mem_of_mem_drop otherListed)
      rw [here, Option.some_inj] at found
      rw [there, Option.some_inj] at otherFound
      subst found otherFound
      rw [rankMakesRoom_iff, not_or, not_lt] at stays
      exact stays.1
  · next few =>
    refine ⟨by omega, [], by rw [List.append_nil], fun _ _ other listed => ?_⟩
    exact absurd listed List.not_mem_nil

end Selection

/-! ### The form of the records -/

/-- A record inside the image, on the grid of the template, with its orientation in the half
circle. -/
structure FeatureRecord.Extracted (record : FeatureRecord) : Prop where
  left : 0x80 ≤ record.unsignedX
  right : record.unsignedX ≤ (imageWidth - 2) * 0x100 + 0x80
  top : 0x80 ≤ record.unsignedY
  bottom : record.unsignedY ≤ (imageHeight - 2) * 0x100 + 0x80
  gridX : record.unsignedX % 0x10 = 0
  gridY : record.unsignedY % 0x10 = 0
  orientation : ∃ turn : ℕ, turn ≤ 0x32 ∧ record.orientation.toInt = turn * 0x100

lemma FeatureRecord.Extracted.prepared {record : FeatureRecord} (extracted : record.Extracted) :
    record.Prepared := by
  obtain ⟨turn, small, eq⟩ := extracted.orientation
  exact ⟨extracted.gridX, extracted.gridY, turn, by omega, by omega, eq⟩

/-- Only the place and the orientation count. -/
lemma FeatureRecord.Extracted.congr {a b : FeatureRecord} (same : a.head = b.head)
    (extracted : b.Extracted) : a.Extracted := by
  obtain ⟨-, rest⟩ := Prod.mk.inj same
  obtain ⟨x, rest⟩ := Prod.mk.inj rest
  obtain ⟨y, rest⟩ := Prod.mk.inj rest
  obtain ⟨orientation, -⟩ := Prod.mk.inj rest
  obtain ⟨left, right, top, bottom, gridX, gridY, turn⟩ := extracted
  unfold unsignedX at left right gridX
  unfold unsignedY at top bottom gridY
  constructor <;> simp only [unsignedX, unsignedY, x, y, orientation] <;> assumption

section Describe

variable {images : FeatureImages} {materialized : Materialized}

lemma head_describeCandidate : (describeCandidate images materialized).head =
    (materialized.record.foreground, roundedCoordinate materialized.record.refinedX,
      roundedCoordinate materialized.record.refinedY,
      roundedOrientation materialized.record.orientation, materialized.record.strength) := by
  have described : (buildDescriptor images.magnitude images.orientation materialized.aux
      materialized.record).head = materialized.record.head := by
    unfold buildDescriptor encodeDescriptorSecondPass encodeDescriptorFirstPass
    simp
  obtain ⟨foreground, rest⟩ := Prod.mk.inj described
  obtain ⟨x, rest⟩ := Prod.mk.inj rest
  obtain ⟨y, rest⟩ := Prod.mk.inj rest
  obtain ⟨orientation, strength⟩ := Prod.mk.inj rest
  unfold describeCandidate finalizeRecord
  rw [head_writeBytes, head, foreground, x, y, orientation, strength]

/-- A coordinate within half a pixel of one inside the image stays there. -/
lemma roundedCoordinate_range {value : Int16} {place limit : ℤ} (low : 1 ≤ place)
    (high : place ≤ limit) (below : limit ≤ 78) (left : place * 0x100 - 0x80 ≤ value.toInt)
    (right : value.toInt < place * 0x100 + 0x80) :
    0x80 ≤ (roundedCoordinate value).toUInt16.toNat ∧
      ((roundedCoordinate value).toUInt16.toNat : ℤ) ≤ limit * 0x100 + 0x80 ∧
      (roundedCoordinate value).toUInt16.toNat % 0x10 = 0 := by
  have unsigned : (value.toUInt16.toNat : ℤ) = value.toInt :=
    Reinterpret.toNat_toUInt16 (by omega)
  have rounded : (roundedCoordinate value).toUInt16.toNat =
      (value.toUInt16.toNat + 8) / 0x10 * 0x10 := by
    unfold roundedCoordinate
    rw [UInt16.toUInt16_toInt16, UInt16.toNat_ofNat', Nat.mod_eq_of_lt]
    omega
  omega

lemma roundedOrientation_turn {orientation : Int16} (low : 0 ≤ orientation.toInt)
    (high : orientation.toInt ≤ 0x3244) :
    ∃ turn : ℕ, turn ≤ 0x32 ∧ (roundedOrientation orientation).toInt = turn * 0x100 := by
  have positive : ¬orientation < 0 := by
    rw [Int16.lt_iff_toInt_lt]
    exact not_lt.mpr low
  refine ⟨((orientation.toInt + 0x80) / 0x100).toNat, by omega, ?_⟩
  unfold roundedOrientation
  rw [if_neg positive, Int16.toInt_ofInt_of_le (by omega) (by omega)]
  omega

/-- What a candidate passes on to its record. -/
lemma FeatureImages.Gives.parts {candidate : FeatureCandidate} {index : ℕ}
    (given : images.Gives candidate index materialized) :
    (materialized.record.foreground = 0 ∨ materialized.record.foreground = 1) ∧
      materialized.record.refinedX = candidate.refinedX ∧
      materialized.record.refinedY = candidate.refinedY ∧
      materialized.rankIndex = UInt32.ofNat index := by
  unfold FeatureImages.Gives materializeCandidate at given
  obtain ⟨interpolated, -, rfl⟩ := Option.map_eq_some_iff.mp given
  refine ⟨?_, rfl, rfl, rfl⟩
  dsimp only
  split
  · exact .inr rfl
  · exact .inl rfl

/-- What is described was materialized at a place inside the image. -/
lemma describeCandidate_extracted {candidate : FeatureCandidate} {index : ℕ}
    (bins : BinsInside images.orientation candidate) (placed : candidate.Placed)
    (given : images.Gives candidate index materialized) :
    (describeCandidate images materialized).Extracted ∧
      ((describeCandidate images materialized).polarity = 0 ∨
        (describeCandidate images materialized).polarity = 1) := by
  obtain ⟨found, same, low, high⟩ :=
    ((orientationSafe_iff_defined bins placed.interior).mpr
      (by rw [given]; rfl)).defined
  cases given.symm.trans same
  obtain ⟨foreground, refinedX, refinedY, -⟩ := given.parts
  obtain ⟨left, right, top, bottom⟩ := placed.interior
  simp only [imageWidth, imageHeight] at right bottom
  have column := roundedCoordinate_range left (by omega : candidate.x.toInt ≤ 78) le_rfl
    placed.left placed.right
  have line := roundedCoordinate_range top (by omega : candidate.y.toInt ≤ 62) (by omega)
    placed.top placed.bottom
  have turn := roundedOrientation_turn low high
  rw [← refinedX] at column
  rw [← refinedY] at line
  obtain ⟨classified, rest⟩ := Prod.mk.inj (@head_describeCandidate images materialized)
  obtain ⟨x, rest⟩ := Prod.mk.inj rest
  obtain ⟨y, rest⟩ := Prod.mk.inj rest
  obtain ⟨orientation, -⟩ := Prod.mk.inj rest
  rw [← x] at column
  rw [← y] at line
  rw [← orientation] at turn
  refine ⟨⟨column.1, ?_, line.1, ?_, column.2.2, line.2.2, turn⟩, ?_⟩
  · have := column.2.1
    unfold unsignedX imageWidth
    omega
  · have := line.2.1
    unfold unsignedY imageHeight
    omega
  · unfold polarity
    rw [classified]
    rcases foreground with zero | one
    · exact .inl (by rw [zero]; rfl)
    · exact .inr (by rw [one]; rfl)

end Describe

/-! ### The whole extraction -/

lemma collected_indexed {images : FeatureImages} {scan : CandidateScan}
    {candidates : List FeatureCandidate}
    (sound : scan.From images collectionCapacity candidates) : Indexed scan.collected := by
  intro index materialized found
  have inside := (List.getElem?_eq_some_iff.mp found).1
  have listed : index < candidates.length := sound.length.symm ▸ inside
  obtain ⟨-, -, -, place⟩ :=
    (sound.gives index _ materialized (List.getElem?_eq_getElem listed) found).parts
  have few := sound.few
  rw [place, UInt32.toNat_ofNat', Nat.mod_eq_of_lt]
  unfold collectionCapacity at few
  omega

/-- Each candidate comes from a place inside the image, no two of them from one pixel. -/
def FromDistinctPixels (images : FeatureImages) (collected : List Materialized) : Prop :=
  ∃ candidates : List FeatureCandidate, (candidates.map candidatePixel).Nodup ∧
    List.Forall₂ (fun candidate materialized => candidate.Placed ∧
      ∃ index, images.Gives candidate index materialized) candidates collected

lemma CandidateScan.From.distinctPixels {images : FeatureImages} {capacity : ℕ}
    {scan : CandidateScan} {candidates : List FeatureCandidate}
    (sound : scan.From images capacity candidates) :
    FromDistinctPixels images scan.collected := by
  refine ⟨candidates, sound.distinct, List.forall₂_iff_get.mpr ⟨sound.length, ?_⟩⟩
  intro index present inside
  exact ⟨sound.placed _ (List.get_mem candidates _), index,
    sound.gives index _ _ (List.getElem?_eq_getElem present) (List.getElem?_eq_getElem inside)⟩

lemma FromDistinctPixels.mem {images : FeatureImages} {collected : List Materialized}
    (sound : FromDistinctPixels images collected) {materialized : Materialized}
    (listed : materialized ∈ collected) :
    ∃ candidate index, candidate.Placed ∧ images.Gives candidate index materialized := by
  obtain ⟨candidates, -, pairs⟩ := sound
  obtain ⟨length, each⟩ := List.forall₂_iff_get.mp pairs
  obtain ⟨index, inside, rfl⟩ := List.mem_iff_getElem.mp listed
  obtain ⟨placed, place, given⟩ := each index (length ▸ inside) inside
  exact ⟨_, place, placed, given⟩

/-- Of all candidates the strongest are described, and lost only where the mask refuses them. -/
def DescribesStrongest (enhanced : FeatureImage) (capacity : ℕ) (records : List FeatureRecord) :
    Prop :=
  ∃ collected selected dropped : List Materialized,
    collectCandidates (extractionImages enhanced) collectionCapacity (buildScaleSpace enhanced) =
        some collected ∧
      FromDistinctPixels (extractionImages enhanced) collected ∧
      (selected ++ dropped).Perm collected ∧
      selected.length = min capacity collected.length ∧
      (∀ strong ∈ selected, ∀ weak ∈ dropped,
        strong.rankStrength.toInt ≤ weak.rankStrength.toInt) ∧
      (records.map head).Perm
        (((selected.map (describeCandidate (extractionImages enhanced))).filter fun record =>
          !maskRefuses (buildMask enhanced) record).map head)

/-- What an extraction leaves. -/
structure NeighborInput.Extracted (enhanced : FeatureImage) (capacity : ℕ) (input : NeighborInput) :
    Prop where
  few : input.count ≤ capacity
  fits : input.count ≤ input.records.length
  active : input.active ≤ input.count
  extracted : ∀ record ∈ input.records.take input.count, record.Extracted
  kept : ∀ record ∈ input.records.take input.count, maskRefuses (buildMask enhanced) record = false
  polarity : ∀ index record, (input.records.take input.count)[index]? = some record →
    record.polarity = if index < input.active then 0 else 1
  strongest : DescribesStrongest enhanced capacity (input.records.take input.count)

lemma extractionImages_bins (enhanced : FeatureImage) (candidate : FeatureCandidate) :
    BinsInside (extractionImages enhanced).orientation candidate :=
  buildGradients_bins _ candidate

lemma NeighborInput.Extracted.of_leaves {enhanced : FeatureImage} {capacity : ℕ}
    {input : NeighborInput} {scan : CandidateScan} {candidates : List FeatureCandidate}
    (returned : collectCandidates (extractionImages enhanced) collectionCapacity
      (buildScaleSpace enhanced) = some scan.collected)
    (sound : scan.From (extractionImages enhanced) collectionCapacity candidates)
    (leaves : input.Leaves enhanced ((selectStrongest capacity scan.collected).map
      (describeCandidate (extractionImages enhanced)))) :
    input.Extracted enhanced capacity := by
  obtain ⟨length, dropped, all, ranked⟩ := @selectStrongest_ranked capacity _
    (collected_indexed sound)
  -- every record that is left has the head of a record that was described
  have source : ∀ record ∈ input.records.take input.count, ∃ described ∈
      (selectStrongest capacity scan.collected).map
        (describeCandidate (extractionImages enhanced)),
      maskRefuses (buildMask enhanced) described = false ∧ record.head = described.head := by
    intro record listed
    have there := leaves.heads.mem_iff.mp (List.mem_map_of_mem listed)
    obtain ⟨described, kept, same⟩ := List.mem_map.mp there
    obtain ⟨present, stays⟩ := List.mem_filter.mp kept
    exact ⟨described, present, by simpa using stays, same.symm⟩
  refine ⟨?_, leaves.fits, leaves.active, fun record listed => ?_,
    fun record listed => ?_, leaves.polarity, scan.collected, _, dropped, returned,
    sound.distinctPixels, all, length, ranked, leaves.heads⟩
  · have size := leaves.heads.length_eq
    rw [List.length_map, List.length_map, List.length_take_of_le leaves.fits] at size
    rw [size]
    refine (List.length_filter_le _ _).trans ?_
    rw [List.length_map, length]
    exact Nat.min_le_left _ _
  · obtain ⟨described, present, -, same⟩ := source record listed
    obtain ⟨materialized, selected, rfl⟩ := List.mem_map.mp present
    obtain ⟨candidate, index, placed, given⟩ :=
      sound.distinctPixels.mem (all.mem_iff.mp (List.mem_append_left _ selected))
    exact (describeCandidate_extracted (extractionImages_bins enhanced candidate) placed
      given).1.congr same
  · obtain ⟨described, -, stays, same⟩ := source record listed
    rw [maskRefuses_congr same, stays]

/-- Once the candidates are collected, the rest of the extraction returns. -/
lemma extractSubtemplateFull_of_collected {enhanced : FeatureImage} {collected : List Materialized}
    (returned : collectCandidates (extractionImages enhanced) collectionCapacity
      (buildScaleSpace enhanced) = some collected) (capacity : ℕ) :
    ∃ input consensus, extractSubtemplateFull enhanced capacity = some (input, consensus) ∧
      input.Extracted enhanced capacity := by
  obtain ⟨scan, candidates, rfl, sound⟩ := collect_candidates_from returned
  let described := (selectStrongest capacity scan.collected).map
    (describeCandidate (extractionImages enhanced))
  have two : ∀ record ∈ described, record.polarity = 0 ∨ record.polarity = 1 := by
    intro record listed
    obtain ⟨materialized, selected, rfl⟩ := List.mem_map.mp listed
    obtain ⟨-, dropped, all, -⟩ := @selectStrongest_ranked capacity _
      (collected_indexed sound)
    obtain ⟨candidate, index, placed, given⟩ :=
      sound.distinctPixels.mem (all.mem_iff.mp (List.mem_append_left _ selected))
    exact (describeCandidate_extracted (extractionImages_bins enhanced candidate) placed given).2
  obtain ⟨input, prepared, leaves⟩ := prepareSubtemplateFull_leaves enhanced two le_rfl
  have run : extractSubtemplateFull enhanced capacity =
      some (input, (classifyStatusFull described 24).2.2) := by
    unfold extractSubtemplateFull extractRecords
    simp only [returned, Option.map_some, Option.bind_some]
    exact prepared
  exact ⟨input, _, run, .of_leaves returned sound leaves⟩

/-- The extraction meets a place where the votes have a flat peak. -/
def FlatSomewhere (enhanced : FeatureImage) : Prop :=
  ∃ candidate : FeatureCandidate, candidate.Placed ∧
    FlatPeak (extractionImages enhanced).magnitude (extractionImages enhanced).orientation candidate

/-- The extraction fails at a flat peak only. -/
lemma extractSubtemplateFull_cases (enhanced : FeatureImage) (capacity : ℕ) :
    (∃ input consensus, extractSubtemplateFull enhanced capacity = some (input, consensus) ∧
        input.Extracted enhanced capacity) ∨
      extractSubtemplateFull enhanced capacity = none ∧ FlatSomewhere enhanced := by
  cases returned : collectCandidates (extractionImages enhanced) collectionCapacity
      (buildScaleSpace enhanced) with
  | some collected => exact .inl (extractSubtemplateFull_of_collected returned capacity)
  | none =>
    right
    constructor
    · unfold extractSubtemplateFull extractRecords
      simp only [returned, Option.map_none, Option.bind_none]
    · by_contra nowhere
      have peaked : (extractionImages enhanced).Peaked :=
        ⟨extractionImages_bins enhanced, fun candidate placed peak =>
          nowhere ⟨candidate, placed, peak⟩⟩
      obtain ⟨collected, found⟩ :=
        peaked.collectCandidates collectionCapacity (buildScaleSpace enhanced)
      rw [returned] at found
      cases found

end GoodixSpi.Chicago
