import GoodixSpi.Chicago.Feature.Partition
import Mathlib.Data.List.Perm.Basic
import Mathlib.Data.List.Perm.Subperm
import Mathlib.Data.List.Nodup

/-! What the last stage leaves of the records it is given: those that the mask does not refuse, each
once, the active ones in front. Nothing before their descriptors changes. -/

namespace GoodixSpi.Chicago

namespace FeatureRecord

/-- Everything before the descriptor. -/
def head (record : FeatureRecord) : UInt16 × Int16 × Int16 × Int16 × Int32 :=
  (record.foreground, record.refinedX, record.refinedY, record.orientation, record.strength)

@[simp] lemma head_setByte (record : FeatureRecord) (offset : ℕ) (value : UInt8) :
    (record.setByte offset value).head = record.head := rfl

@[simp] lemma head_markPositive (record : FeatureRecord) :
    (markPositive record).head = record.head := by
  unfold markPositive
  split <;> rfl

@[simp] lemma head_reclassify (classes : ℕ → ℕ → UInt8) (record : FeatureRecord) :
    (reclassify classes record).head = record.head := by
  unfold reclassify
  dsimp only
  split
  · rfl
  split <;> rfl

@[simp] lemma head_writeBytes (record : FeatureRecord) (offset : ℕ) (bytes : List UInt8) :
    (writeBytes record offset bytes).head = record.head := by
  unfold writeBytes
  induction bytes.zipIdx generalizing record with
  | nil => rfl
  | cons write rest ih => rw [List.foldl_cons, ih, head_setByte]

@[simp] lemma head_packRecord (record : FeatureRecord) (reverseBits : Bool) :
    (packRecord record reverseBits).head = record.head := by
  unfold packRecord
  dsimp only
  split <;> simp

lemma polarity_congr {a b : FeatureRecord} (same : a.head = b.head) : a.polarity = b.polarity := by
  unfold polarity
  rw [(Prod.mk.inj same).1]

lemma maskRefuses_congr {a b : FeatureRecord} (same : a.head = b.head) (mask : ℕ → ℕ → ℕ) :
    maskRefuses mask a = maskRefuses mask b := by
  obtain ⟨-, rest⟩ := Prod.mk.inj same
  obtain ⟨x, rest⟩ := Prod.mk.inj rest
  unfold maskRefuses unsignedX unsignedY
  rw [x, (Prod.mk.inj rest).1]

end FeatureRecord

open FeatureRecord

lemma classified_heads (records : List FeatureRecord) (templateType : ℕ) :
    ∃ change : FeatureRecord → FeatureRecord,
      (classifyStatusFull records templateType).2.1 = records.map change ∧
      ∀ record, (change record).head = record.head := by
  unfold classifyStatusFull
  dsimp only
  split
  · exact ⟨markPositive, rfl, head_markPositive⟩
  · exact ⟨fun record => reclassify (statusClass (records.map markPositive)) (markPositive record),
      List.map_map, fun record => by simp⟩

lemma packRecords_heads (records : List FeatureRecord) (count : ℕ) :
    (packRecords records count).map head = records.map head :=
  map_foldl_modify _ _ (fun record => head_packRecord record false) _ _

lemma foldl_heads {step : List FeatureRecord → ℕ → List FeatureRecord}
    (keeps : ∀ records index, (step records index).map head = records.map head) (places : List ℕ)
    (records : List FeatureRecord) : (places.foldl step records).map head = records.map head := by
  induction places generalizing records with
  | nil => rfl
  | cons index rest ih => rw [List.foldl_cons, ih, keeps]

lemma scoreNeighbors_heads (records : List FeatureRecord) (annotations : List UInt8) (count : ℕ) :
    (scoreNeighbors records annotations count).map head = records.map head :=
  foldl_heads (fun records index => map_foldl_modify head _
    (fun record => head_setByte record _ _) [index] records) _ _

/-! ### The partition as a permutation -/

lemma perm_of_places {α : Type} {items out : List α} {places : Equiv.Perm ℕ}
    (length : out.length = items.length) (within : ∀ i, items.length ≤ i → places i = i)
    (moved : ∀ i : ℕ, out[i]? = items[places i]?) : out.Perm items := by
  have whole (list : List α) : list.map some = (List.range list.length).map fun i => list[i]? := by
    apply List.ext_getElem?
    intro i
    rcases Nat.lt_or_ge i list.length with inside | outside
    · simp [List.getElem?_range inside, List.getElem?_eq_getElem inside]
    · rw [List.getElem?_eq_none (by simpa using outside),
        List.getElem?_eq_none (by simpa using outside)]
  have below (i : ℕ) : places i < items.length ↔ i < items.length := by
    constructor
    · intro inside
      by_contra outside
      rw [within i (not_lt.mp outside)] at inside
      exact outside inside
    · intro inside
      by_contra outside
      have fixed := within (places i) (not_lt.mp outside)
      rw [places.injective fixed] at outside
      exact outside inside
  have shuffled : ((List.range items.length).map places).Perm (List.range items.length) := by
    rw [List.perm_ext_iff_of_nodup (List.nodup_range.map places.injective) List.nodup_range]
    intro i
    rw [List.mem_map, List.mem_range]
    constructor
    · rintro ⟨j, listed, rfl⟩
      exact (below j).mpr (List.mem_range.mp listed)
    · intro inside
      refine ⟨places.symm i, List.mem_range.mpr ((below _).mp ?_), places.apply_symm_apply i⟩
      rwa [places.apply_symm_apply]
  have read := shuffled.map fun i => items[i]?
  rw [List.map_map, ← whole] at read
  have out_eq : out.map some = (List.range items.length).map
      ((fun i => items[i]?) ∘ places) := by
    rw [whole, length]
    exact List.map_congr_left fun i _ => moved i
  rw [← out_eq] at read
  exact (List.map_perm_map_iff (Option.some_injective α)).mp read

/-- Only the first `count` entries are moved, among themselves. -/
lemma MovedTogether.perm_take {count : ℕ} {records out : List FeatureRecord}
    {annotations outAnnotations : List UInt8} {places : Equiv.Perm ℕ}
    (moved : MovedTogether count records out annotations outAnnotations places)
    (fits : count ≤ records.length) : (out.take count).Perm (records.take count) := by
  have size : (records.take count).length = count := List.length_take_of_le fits
  have inFront (i : ℕ) : places i < count ↔ i < count := by
    constructor
    · intro inside
      by_contra outside
      rw [moved.within i (not_lt.mp outside)] at inside
      exact outside inside
    · intro inside
      by_contra outside
      rw [places.injective (moved.within (places i) (not_lt.mp outside))] at outside
      exact outside inside
  refine @perm_of_places _ (records.take count) (out.take count) places ?_ ?_ ?_
  · rw [size, List.length_take_of_le (by rw [moved.length]; exact fits)]
  · rw [size]
    exact moved.within
  · intro i
    rw [List.getElem?_take, List.getElem?_take, moved.records i]
    by_cases inside : i < count
    · rw [if_pos inside, if_pos ((inFront i).mpr inside)]
    · rw [if_neg inside, if_neg fun moved => inside ((inFront i).mp moved)]

/-! ### The whole stage -/

/-- What is left of `records`, with the number of active ones. -/
structure NeighborInput.Leaves (enhanced : FeatureImage) (records : List FeatureRecord)
    (input : NeighborInput) : Prop where
  fits : input.count ≤ input.records.length
  heads : ((input.records.take input.count).map head).Perm
    ((records.filter fun record => !maskRefuses (buildMask enhanced) record).map head)
  active : input.active ≤ input.count
  polarity : ∀ index record, (input.records.take input.count)[index]? = some record →
    record.polarity = if index < input.active then 0 else 1

lemma filter_refused_map (mask : ℕ → ℕ → ℕ) {change : FeatureRecord → FeatureRecord}
    (same : ∀ record, (change record).head = record.head) (records : List FeatureRecord) :
    ((records.map change).filter fun record => !maskRefuses mask record).map head =
      (records.filter fun record => !maskRefuses mask record).map head := by
  rw [List.filter_map, List.map_map]
  have refused : ((fun record => !maskRefuses mask record) ∘ change) =
      fun record => !maskRefuses mask record :=
    funext fun record => congrArg _ (maskRefuses_congr (same record) mask)
  rw [refused]
  exact List.map_congr_left fun record _ => same record

lemma NeighborInput.Leaves.of_heads {enhanced : FeatureImage} {records : List FeatureRecord}
    {input after : NeighborInput} (leaves : input.Leaves enhanced records)
    (heads : after.records.map head = input.records.map head) (count : after.count = input.count)
    (active : after.active = input.active) : after.Leaves enhanced records where
  fits := by
    have length := congrArg List.length heads
    rw [List.length_map, List.length_map] at length
    rw [count, length]
    exact leaves.fits
  heads := by
    rw [List.map_take, count, heads, ← List.map_take]
    exact leaves.heads
  active := by
    rw [active, count]
    exact leaves.active
  polarity index record found := by
    have read : ((after.records.take after.count).map head)[index]? = some record.head := by
      rw [List.getElem?_map, found]
      rfl
    rw [List.map_take, count, heads, ← List.map_take, List.getElem?_map] at read
    obtain ⟨before, here, same⟩ := Option.map_eq_some_iff.mp read
    rw [active, ← polarity_congr same]
    exact leaves.polarity index before here

/-- Records that are active or inactive go through the last stage: what is left are the records that
the mask does not refuse, each once and with the same head, the active ones in front. -/
theorem prepareSubtemplateFull_leaves (enhanced : FeatureImage) {records : List FeatureRecord}
    (two : ∀ record ∈ records, record.polarity = 0 ∨ record.polarity = 1) {fuel : ℕ}
    (enough : records.length + 2 ≤ fuel) :
    ∃ input, prepareSubtemplateFull fuel enhanced records =
        some (input, (classifyStatusFull records 24).2.2) ∧
      input.Leaves enhanced records := by
  obtain ⟨change, classified, same⟩ := classified_heads records 24
  let refused := maskRefuses (buildMask enhanced)
  let moved := records.map change
  let kept := SwapDelete.survivors refused moved
  let filtered := SwapDelete.packed refused moved ++
    List.replicate (moved.length - kept) FeatureRecord.zero
  have front : (SwapDelete.packed refused moved).length = kept := SwapDelete.length_packed moved
  have few : kept ≤ records.length := by
    rw [← List.length_map change]
    exact SwapDelete.survivors_le moved
  have fits : kept ≤ filtered.length := by
    rw [List.length_append, front]
    exact Nat.le_add_right _ _
  have kinds : TwoKinds filtered kept := by
    intro i inside
    have listed : i < (SwapDelete.packed refused moved).length := by rwa [front]
    rw [List.getD_eq_getElem?_getD, List.getElem?_append_left listed,
      List.getElem?_eq_getElem listed, Option.getD_some]
    obtain ⟨record, known, eq⟩ :=
      List.mem_map.mp (SwapDelete.mem_of_mem_packed (List.getElem_mem listed))
    rw [← eq, polarity_congr (same record)]
    exact two record known
  have annotated : (buildAnnotations enhanced records).length = records.length := by
    rw [buildAnnotations, List.length_map]
  obtain ⟨⟨out, outAnnotations, active⟩, run⟩ := Option.isSome_iff_exists.mp
    (partitionRecords_ends (buildAnnotations enhanced records) fits kinds)
  have start : Sorted filtered kept 0 kept :=
    ⟨fun i early => absurd early (Nat.not_lt_zero i), fun i late inside => absurd inside (by omega)⟩
  obtain ⟨⟨places, together⟩, small, sorted⟩ := partitionLoop_leaves (Nat.zero_le _) le_rfl fits
    (.inl (by rw [annotated]; exact few)) start run
  have ran : prepareNeighborInput fuel enhanced records =
      some ⟨packRecords out kept, outAnnotations, kept, active⟩ := by
    unfold prepareNeighborInput
    simp only [classified, filterMask_eq]
    rw [partitionRecords, partitionLoop_le (Nat.le_trans (Nat.add_le_add_right few 2) enough) run]
    rfl
  have leaves : NeighborInput.Leaves enhanced records ⟨out, outAnnotations, kept, active⟩ := by
    refine ⟨by rw [together.length]; exact fits, ?_, small, ?_⟩
    · have whole : filtered.take kept = SwapDelete.packed refused moved := List.take_left' front
      have survived := (together.perm_take fits).map head
      rw [whole] at survived
      refine survived.trans ?_
      rw [← filter_refused_map (buildMask enhanced) same records]
      exact (SwapDelete.packed_perm moved).map head
    · intro index record found
      rw [List.getElem?_take] at found
      split at found
      · next inside =>
        have value : out.getD index FeatureRecord.zero = record := by
          rw [List.getD_eq_getElem?_getD, found]
          rfl
        split
        · next early => rw [← value]; exact sorted.active index early
        · next late => rw [← value]; exact sorted.inactive index (not_lt.mp late) inside
      · cases found
  refine ⟨⟨scoreNeighbors (packRecords out kept) outAnnotations kept, outAnnotations, kept, active⟩,
    by rw [prepareSubtemplateFull, ran]; rfl, leaves.of_heads ?_ rfl rfl⟩
  exact (scoreNeighbors_heads _ _ _).trans (packRecords_heads _ _)

end GoodixSpi.Chicago
