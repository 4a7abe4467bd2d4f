import GoodixSpi.Chicago.Feature.ColumnImage
import GoodixSpi.Lib.Described
import GoodixSpi.Lib.SwapDelete

/-! The last stage of the extraction. Annotations are computed for all records; then records are
reclassified, filtered by the mask and divided into active and inactive ones, and each is scored by
its neighbours and their annotations. -/

namespace GoodixSpi.Chicago

open CArithmetic

namespace FeatureRecord

/-- `bytes[offset]`, from the descriptor on. -/
def byteAt (record : FeatureRecord) (offset : ℕ) : UInt8 :=
  record.descriptor.toList.getD (offset - 0x0c) 0

def setByte (record : FeatureRecord) (offset : ℕ) (value : UInt8) : FeatureRecord :=
  { record with descriptor := record.descriptor.setIfInBounds (offset - 0x0c) value }

/-- `(gint8) bytes[0x38]`. -/
def status (record : FeatureRecord) : Int8 := (record.byteAt 0x38).toInt8

/-- `bytes[0] & 3`. -/
def polarity (record : FeatureRecord) : ℕ := record.foreground.toNat % 4

def zero : FeatureRecord := ⟨0, 0, 0, 0, 0, Vector.replicate 48 0⟩

end FeatureRecord

/-! ### `goodix_chicago_feature_classify_status_full` -/

structure FeatureConsensus where
  negativePercent : ℕ
  positivePercent : ℕ
  neutralPercent : ℕ
  densityClass : ℕ
  inactiveCount : ℕ

def markPositive (record : FeatureRecord) : FeatureRecord :=
  if 0 < record.status then record.setByte 0x38 2 else record

def statusVote (records : List FeatureRecord) (x y : ℕ) : Int8 :=
  records.foldl (fun vote record =>
    if (record.row - 15 ≤ y ∧ y < min imageHeight (record.row + 15)) ∧
        record.column - 15 ≤ x ∧ x < min imageWidth (record.column + 15) then
      vote + if 0 < record.status then 1 else -1
    else vote) 0

def statusAverage (records : List FeatureRecord) (x y : ℕ) : ℤ :=
  let left := x - 15
  let right := min (x + 15) (imageWidth - 1)
  let top := y - 15
  let bottom := min (y + 15) (imageHeight - 1)
  let area := (right - left + 1) * (bottom - top + 1)
  let sum :=
    annotationRectangleSum (fun x y => (statusVote records x y).toInt) left top right bottom
  quotient (sum + (area / 2 : ℕ)) area

def statusClass (records : List FeatureRecord) (x y : ℕ) : UInt8 :=
  let average := statusAverage records x y
  if average < -3 then 0 else if average < 2 then 0x80 else 0xff

def reclassify (classes : ℕ → ℕ → UInt8) (record : FeatureRecord) : FeatureRecord :=
  let classification := classes record.column record.row
  if classification = 0xff ∧ record.status = 0 then record.setByte 0x38 3
  else if classification = 0 ∧ 0 < record.status then record.setByte 0x38 0xff
  else record

/-- The pixels of one class. -/
def classPixels (classes : ℕ → ℕ → UInt8) (classification : UInt8) : ℕ :=
  ((List.range imageHeight).map fun y =>
    (List.range imageWidth).countP fun x => classes x y == classification).sum

def statusConsensus (classes : ℕ → ℕ → UInt8) (templateType : ℕ) (records : List FeatureRecord) :
    FeatureConsensus :=
  let classThreshold := if templateType = 7 ∨ templateType = 23 then 5 else 10
  let positivePercent := classPixels classes 0xff * 100 / pixels
  { negativePercent := classPixels classes 0 * 100 / pixels
    positivePercent := positivePercent
    neutralPercent := classPixels classes 0x80 * 100 / pixels
    densityClass :=
      if positivePercent ≥ classThreshold then if positivePercent ≥ 65 then 2 else 1 else 0
    inactiveCount := records.countP fun record => record.status ≤ 0 }

def classifyStatusFull (records : List FeatureRecord) (templateType : ℕ) :
    Bool × List FeatureRecord × FeatureConsensus :=
  let marked := records.map markPositive
  if records.countP (fun record => 0 < record.status) = 0 then (false, marked, ⟨0, 0, 0, 0, 0⟩)
  else
    let classes := statusClass marked
    let classified := marked.map (reclassify classes)
    (true, classified, statusConsensus classes templateType classified)

/-! ### `goodix_chicago_feature_filter_mask` -/

/-- The pixel nearest to the record is outside the mask. -/
def maskRefuses (mask : ℕ → ℕ → ℕ) (record : FeatureRecord) : Bool :=
  let x := (record.unsignedX + 0x80) / 0x100
  let y := (record.unsignedY + 0x80) / 0x100
  x < imageWidth && y < imageHeight && mask x y == 0

def filterMask (mask : ℕ → ℕ → ℕ) (records : List FeatureRecord) : List FeatureRecord × ℕ :=
  SwapDelete.compact (maskRefuses mask) FeatureRecord.zero records 0 records.length

/-! ### `goodix_chicago_feature_partition_records` -/

def advanceLow (records : List FeatureRecord) (low high : ℕ) : ℕ :=
  if low < high ∧ (records.getD low FeatureRecord.zero).polarity = 0 then
    advanceLow records (low + 1) high
  else low
termination_by high - low

def retreatHigh (records : List FeatureRecord) (low high : ℕ) : ℕ :=
  if low < high ∧ (records.getD (high - 1) FeatureRecord.zero).polarity = 1 then
    retreatHigh records low (high - 1)
  else high
termination_by high - low

/-- Records and annotations change places together. Two records that are neither active nor
inactive would change places for ever. -/
def partitionLoop : ℕ → List FeatureRecord → List UInt8 → ℕ → ℕ →
    Option (List FeatureRecord × List UInt8 × ℕ)
  | 0, _, _, _, _ => none
  | fuel + 1, records, annotations, low, high =>
    if low < high then
      let low := advanceLow records low high
      let high := retreatHigh records low high
      if low ≥ high then some (records, annotations, low)
      else
        partitionLoop fuel (Described.swapAt records low (high - 1))
          (Described.swapAt annotations low (high - 1)) low high
    else some (records, annotations, low)

def partitionRecords (fuel : ℕ) (records : List FeatureRecord) (annotations : List UInt8)
    (count : ℕ) : Option (List FeatureRecord × List UInt8 × ℕ) :=
  partitionLoop fuel records annotations 0 count

/-! ### `goodix_chicago_feature_pack_record` -/

def reverseRecordBits (value : UInt32) : UInt32 :=
  (List.range 32).foldl (fun reversed bit =>
    reversed ||| ((value >>> bit.toUInt32 &&& 1) <<< (31 - bit).toUInt32)) 0

/-- The two bytes that a pair of descriptor bytes is packed into. -/
def packPair (record : FeatureRecord) (pair : ℕ) : UInt8 × UInt8 :=
  let first := record.byteAt (0x10 + pair * 2)
  let second := record.byteAt (0x11 + pair * 2)
  let lowFirst := (second &&& 0xf0) ||| (first &&& 0x0f)
  let lowSecond := (first &&& 0xf0) ||| (second &&& 0x0f)
  if [0, 1, 1, 0, 1, 0, 0, 1].getD pair 0 ≠ 0 then (lowSecond, lowFirst) else (lowFirst, lowSecond)

def packedBytes (record : FeatureRecord) (reverseBits : Bool) : List UInt8 :=
  let word := record.descriptorWord 0x14
  ((List.range 8).map fun pair => (packPair record pair).1) ++
    ((List.range 8).map fun pair => (packPair record pair).2) ++
    LittleEndian.bytes (if reverseBits then reverseRecordBits word else word) ++ [0, 0, 0, 0]

def packedTail (record : FeatureRecord) : List UInt8 :=
  [record.byteAt 0x28, ~~~record.byteAt 0x29, ~~~record.byteAt 0x2a, record.byteAt 0x2b,
    record.byteAt 0x2f, record.byteAt 0x2e, record.byteAt 0x2d, record.byteAt 0x2c]

def writeBytes (record : FeatureRecord) (offset : ℕ) (bytes : List UInt8) : FeatureRecord :=
  bytes.zipIdx.foldl (fun record byte => record.setByte (offset + byte.2) byte.1) record

def packRecord (record : FeatureRecord) (reverseBits : Bool) : FeatureRecord :=
  let written := writeBytes record 0x10 (packedBytes record reverseBits)
  if reverseBits then writeBytes written 0x30 (packedTail written) else written

/-! ### `goodix_chicago_feature_score_neighbors` -/

def maximumDistance : List ℕ :=
  [20, 30, 37, 44, 50, 55, 60, 65, 70, 74,
    78, 83, 87, 91, 95, 99, 103, 108, 112, 116,
    120, 125, 129, 134, 138, 143, 148, 154, 159, 165,
    171, 178, 185, 193, 202, 213, 226, 243, 255]

def neighborDistanceWeight (squaredDistance : ℕ) : ℕ :=
  39 - maximumDistance.findIdx fun maximum => squaredDistance ≤ maximum

/-- What one neighbour adds to the score. -/
def neighborScore (records : List FeatureRecord) (annotations : List UInt8) (index neighbor : ℕ) :
    ℕ :=
  if neighbor = index then 0
  else
    let centerRecord := records.getD index FeatureRecord.zero
    let neighborRecord := records.getD neighbor FeatureRecord.zero
    let deltaX : ℤ := (neighborRecord.column : ℤ) - centerRecord.column
    let deltaY : ℤ := (centerRecord.row : ℤ) - neighborRecord.row
    let squared := (deltaX * deltaX + deltaY * deltaY).toNat
    if squared = 0 ∨ squared ≥ 0x100 then 0
    else
      let weight := neighborDistanceWeight squared
      if 50 < (annotations.getD neighbor 0).toInt8 then weight * 12 / 8 else weight

def scoreNeighbors (records : List FeatureRecord) (annotations : List UInt8) (count : ℕ) :
    List FeatureRecord :=
  (List.range count).foldl (fun records index =>
    let score := ((List.range count).map (neighborScore records annotations index)).sum
    records.modify index fun record => record.setByte 0x39 (min (score / 8) 100).toUInt8) records

/-! ### `goodix_chicago_feature_prepare_subtemplate_full` -/

/-- What is handed to `goodix_chicago_feature_score_neighbors`. -/
structure NeighborInput where
  records : List FeatureRecord
  annotations : List UInt8
  count : ℕ
  active : ℕ

def packRecords (records : List FeatureRecord) (count : ℕ) : List FeatureRecord :=
  (List.range count).foldl (fun records index =>
    records.modify index fun record => packRecord record false) records

def prepareNeighborInput (fuel : ℕ) (enhanced : FeatureImage) (records : List FeatureRecord) :
    Option NeighborInput :=
  let mask := buildMask enhanced
  let annotations := buildAnnotations enhanced records
  let classified := (classifyStatusFull records 24).2.1
  let filtered := filterMask mask classified
  (partitionRecords fuel filtered.1 annotations filtered.2).map fun partitioned =>
    { records := packRecords partitioned.1 filtered.2
      annotations := partitioned.2.1
      count := filtered.2
      active := partitioned.2.2 }

/-- The records and annotations it leaves, the count it returns, and its two outputs. -/
def prepareSubtemplateFull (fuel : ℕ) (enhanced : FeatureImage) (records : List FeatureRecord) :
    Option (NeighborInput × FeatureConsensus) :=
  (prepareNeighborInput fuel enhanced records).map fun input =>
    ({ input with records := scoreNeighbors input.records input.annotations input.count },
      (classifyStatusFull records 24).2.2)

/-! ### What the later steps leave of a record

Only the place of a record decides its annotation and whether the mask refuses it. -/

structure SamePlace (a b : FeatureRecord) : Prop where
  x : a.refinedX = b.refinedX
  y : a.refinedY = b.refinedY
  foreground : a.foreground = b.foreground

namespace SamePlace

variable {a b c : FeatureRecord}

lemma refl (a : FeatureRecord) : SamePlace a a := ⟨rfl, rfl, rfl⟩

lemma trans (ab : SamePlace a b) (bc : SamePlace b c) : SamePlace a c :=
  ⟨ab.x.trans bc.x, ab.y.trans bc.y, ab.foreground.trans bc.foreground⟩

lemma setByte (record : FeatureRecord) (offset : ℕ) (value : UInt8) :
    SamePlace (record.setByte offset value) record := ⟨rfl, rfl, rfl⟩

lemma annotationOf_eq (same : SamePlace a b) (enhanced : FeatureImage) :
    annotationOf enhanced a = annotationOf enhanced b := by
  unfold annotationOf FeatureRecord.column FeatureRecord.row FeatureRecord.unsignedX
    FeatureRecord.unsignedY
  rw [same.x, same.y]

lemma maskRefuses_eq (same : SamePlace a b) (mask : ℕ → ℕ → ℕ) :
    maskRefuses mask a = maskRefuses mask b := by
  unfold maskRefuses FeatureRecord.unsignedX FeatureRecord.unsignedY
  rw [same.x, same.y]

lemma markPositive (record : FeatureRecord) : SamePlace (markPositive record) record := by
  unfold Chicago.markPositive
  split
  · exact setByte record _ _
  · exact refl record

lemma reclassify (classes : ℕ → ℕ → UInt8) (record : FeatureRecord) :
    SamePlace (reclassify classes record) record := by
  unfold Chicago.reclassify
  dsimp only
  split
  · exact setByte record _ _
  split
  · exact setByte record _ _
  · exact refl record

lemma writeBytes (record : FeatureRecord) (offset : ℕ) (bytes : List UInt8) :
    SamePlace (writeBytes record offset bytes) record := by
  unfold Chicago.writeBytes
  generalize bytes.zipIdx = writes
  induction writes generalizing record with
  | nil => exact refl record
  | cons write rest ih => exact (ih _).trans (setByte record _ _)

lemma packRecord (record : FeatureRecord) (reverseBits : Bool) :
    SamePlace (packRecord record reverseBits) record := by
  unfold Chicago.packRecord
  dsimp only
  split
  · exact (writeBytes _ _ _).trans (writeBytes record _ _)
  · exact writeBytes record _ _

end SamePlace

lemma map_foldl_modify {α β : Type} (read : α → β) (change : α → α)
    (same : ∀ item, read (change item) = read item) (places : List ℕ) (items : List α) :
    (places.foldl (fun items place => items.modify place change) items).map read =
      items.map read := by
  induction places generalizing items with
  | nil => rfl
  | cons place rest ih =>
    rw [List.foldl_cons, ih]
    apply List.ext_getElem?
    intro i
    rw [List.getElem?_map, List.getElem?_map, List.getElem?_modify]
    cases items[i]? with
    | none => rfl
    | some item =>
      by_cases here : place = i <;> simp [here, same]

lemma map_packRecords (enhanced : FeatureImage) (records : List FeatureRecord) (count : ℕ) :
    (packRecords records count).map (annotationOf enhanced) =
      records.map (annotationOf enhanced) :=
  map_foldl_modify _ _ (fun record => (SamePlace.packRecord record false).annotationOf_eq enhanced)
    _ _

lemma classified_eq_map (records : List FeatureRecord) (templateType : ℕ) :
    ∃ change : FeatureRecord → FeatureRecord,
      (classifyStatusFull records templateType).2.1 = records.map change ∧
      ∀ record, SamePlace (change record) record := by
  unfold classifyStatusFull
  dsimp only
  split
  · exact ⟨markPositive, rfl, SamePlace.markPositive⟩
  · refine ⟨fun record => reclassify (statusClass (records.map markPositive)) (markPositive record),
      List.map_map, fun record => ?_⟩
    exact (SamePlace.reclassify _ _).trans (SamePlace.markPositive record)

/-! ### The partition -/

lemma advanceLow_le (records : List FeatureRecord) {low high : ℕ} (ordered : low ≤ high) :
    low ≤ advanceLow records low high ∧ advanceLow records low high ≤ high := by
  fun_induction advanceLow records low high with
  | case1 low step ih =>
    have := ih (by omega)
    omega
  | case2 => exact ⟨le_rfl, ordered⟩

lemma retreatHigh_le (records : List FeatureRecord) {low high : ℕ} (ordered : low ≤ high) :
    low ≤ retreatHigh records low high ∧ retreatHigh records low high ≤ high := by
  fun_induction retreatHigh records low high with
  | case1 high step ih =>
    have := ih (by omega)
    omega
  | case2 => exact ⟨ordered, le_rfl⟩

/-- The partition keeps the records and what describes them together. -/
lemma partitionLoop_described (read : FeatureRecord → UInt8) {fuel count : ℕ}
    {records : List FeatureRecord} {annotations : List UInt8} {low high : ℕ}
    (ordered : low ≤ high) (within : high ≤ count) (fits : count ≤ records.length)
    (fitsToo : count ≤ annotations.length) {outcome : List FeatureRecord × List UInt8 × ℕ}
    (run : partitionLoop fuel records annotations low high = some outcome) :
    Described.UpTo read count outcome.1 outcome.2.1 ↔
      Described.UpTo read count records annotations := by
  induction fuel generalizing records annotations low high with
  | zero => cases run
  | succ fuel ih =>
    unfold partitionLoop at run
    split at run
    · have front := advanceLow_le records ordered
      have back := retreatHigh_le records front.2
      dsimp only at run
      split at run
      · cases run
        rfl
      · refine (ih ?_ ?_ ?_ ?_ run).trans ?_
        · omega
        · omega
        · rwa [Described.length_swapAt]
        · rwa [Described.length_swapAt]
        · exact Described.upTo_swapAt_iff (by omega) (by omega) fits fitsToo
    · cases run
      rfl

/-- Active and inactive are the only kinds of record. -/
def TwoKinds (records : List FeatureRecord) (count : ℕ) : Prop :=
  ∀ i < count, (records.getD i FeatureRecord.zero).polarity = 0 ∨
    (records.getD i FeatureRecord.zero).polarity = 1

lemma getD_swapAt (records : List FeatureRecord) {low high i : ℕ} (hlow : low < records.length)
    (hhigh : high < records.length) :
    (Described.swapAt records low high).getD i FeatureRecord.zero =
      records.getD (if i = high then low else if i = low then high else i) FeatureRecord.zero := by
  simp only [List.getD_eq_getElem?_getD]
  split
  · rename_i same
    rw [same, Described.getElem?_swapAt_right hlow hhigh]
  split
  · rename_i same
    rw [same, Described.getElem?_swapAt_left hlow hhigh]
  · rw [Described.getElem?_swapAt_of_ne hlow hhigh ‹_› ‹_›]

lemma TwoKinds.swapAt {records : List FeatureRecord} {count low high : ℕ}
    (two : TwoKinds records count) (hlow : low < count) (hhigh : high < count)
    (fits : count ≤ records.length) : TwoKinds (Described.swapAt records low high) count := by
  intro i inside
  rw [getD_swapAt records (by omega) (by omega)]
  apply two
  split
  · exact hlow
  split
  · exact hhigh
  · exact inside

lemma advanceLow_stops (records : List FeatureRecord) (low high : ℕ)
    (inside : advanceLow records low high < high) :
    (records.getD (advanceLow records low high) FeatureRecord.zero).polarity ≠ 0 := by
  fun_induction advanceLow records low high with
  | case1 low step ih => exact ih inside
  | case2 low stuck => exact fun zero => stuck ⟨inside, zero⟩

lemma retreatHigh_stops (records : List FeatureRecord) (low high : ℕ)
    (inside : low < retreatHigh records low high) :
    (records.getD (retreatHigh records low high - 1) FeatureRecord.zero).polarity ≠ 1 := by
  fun_induction retreatHigh records low high with
  | case1 high step ih => exact ih inside
  | case2 high stuck => exact fun one => stuck ⟨inside, one⟩

lemma advanceLow_moves (records : List FeatureRecord) {low high : ℕ} (inside : low < high)
    (zero : (records.getD low FeatureRecord.zero).polarity = 0) :
    low < advanceLow records low high := by
  unfold advanceLow
  rw [if_pos ⟨inside, zero⟩]
  exact (advanceLow_le records inside).1

/-- The record that arrives in front is active. -/
lemma swapped_active {records : List FeatureRecord} {count low high : ℕ}
    (two : TwoKinds records count) (within : high ≤ count) (fits : count ≤ records.length)
    (apart : advanceLow records low high <
      retreatHigh records (advanceLow records low high) high)
    (back : retreatHigh records (advanceLow records low high) high ≤ high) :
    ((Described.swapAt records (advanceLow records low high)
        (retreatHigh records (advanceLow records low high) high - 1)).getD
      (advanceLow records low high) FeatureRecord.zero).polarity = 0 := by
  have front := advanceLow_stops records low high (by omega)
  have last := retreatHigh_stops records (advanceLow records low high) high apart
  rw [getD_swapAt records (by omega) (by omega)]
  split
  · rename_i same
    rw [← same] at last
    exact ((two _ (by omega)).resolve_right last)
  · rw [if_pos rfl]
    exact (two _ (by omega)).resolve_right last

/-- A round that starts with an active record passes it; only the first round may not. -/
lemma partitionLoop_ends {fuel count : ℕ} {records : List FeatureRecord} {annotations : List UInt8}
    {low high : ℕ} (ordered : low ≤ high) (within : high ≤ count) (fits : count ≤ records.length)
    (two : TwoKinds records count) (enough : high - low < fuel)
    (first : low < high → (records.getD low FeatureRecord.zero).polarity = 0 ∨
      high - low + 1 < fuel) :
    (partitionLoop fuel records annotations low high).isSome := by
  induction fuel generalizing records annotations low high with
  | zero => omega
  | succ fuel ih =>
    unfold partitionLoop
    split
    · rename_i inside
      have front := advanceLow_le records ordered
      have back := retreatHigh_le records front.2
      have moves : low < advanceLow records low high ∨ high - low + 1 < fuel + 1 :=
        (first inside).imp_left (advanceLow_moves records inside)
      dsimp only
      split
      · rfl
      · apply ih back.1 (back.2.trans within) (by rwa [Described.length_swapAt])
        · exact two.swapAt (by omega) (by omega) fits
        · omega
        · exact fun apart => Or.inl (swapped_active two within fits apart back.2)
    · rfl

theorem partitionRecords_ends {count : ℕ} {records : List FeatureRecord}
    (annotations : List UInt8) (fits : count ≤ records.length) (two : TwoKinds records count) :
    (partitionRecords (count + 2) records annotations count).isSome :=
  partitionLoop_ends (Nat.zero_le count) le_rfl fits two (by omega) fun _ => Or.inr (by omega)

/-- What the filter leaves in front, and how much of it. -/
lemma filterMask_eq (mask : ℕ → ℕ → ℕ) (records : List FeatureRecord) :
    filterMask mask records = (SwapDelete.packed (maskRefuses mask) records ++
      List.replicate (records.length - SwapDelete.survivors (maskRefuses mask) records)
        FeatureRecord.zero, SwapDelete.survivors (maskRefuses mask) records) := by
  have whole := @SwapDelete.compact_append _ (maskRefuses mask) FeatureRecord.zero records [] []
  unfold filterMask
  simpa using whole

/-- Records whose first two flags say active or inactive, as the extraction writes them, are
partitioned in a bounded number of rounds. -/
theorem prepareNeighborInput_ends (enhanced : FeatureImage) (records : List FeatureRecord)
    (two : ∀ record ∈ records, record.polarity = 0 ∨ record.polarity = 1) :
    ∃ fuel, (prepareNeighborInput fuel enhanced records).isSome := by
  obtain ⟨change, classified, same⟩ := classified_eq_map records 24
  have front := @SwapDelete.length_packed _ (maskRefuses (buildMask enhanced))
    (records.map change)
  unfold prepareNeighborInput
  simp only [classified, filterMask_eq, Option.isSome_map]
  refine ⟨_, partitionRecords_ends _ ?_ ?_⟩
  · rw [List.length_append, front]
    exact Nat.le_add_right _ _
  · intro i inside
    have listed : i < (SwapDelete.packed (maskRefuses (buildMask enhanced))
      (records.map change)).length := by rwa [front]
    rw [List.getD_eq_getElem?_getD, List.getElem?_append_left listed,
      List.getElem?_eq_getElem listed, Option.getD_some]
    have mem := SwapDelete.mem_of_mem_packed (List.getElem_mem listed)
    obtain ⟨record, known, eq⟩ := List.mem_map.mp mem
    rw [← eq, FeatureRecord.polarity, (same record).foreground]
    exact two record known

/-- The filter moves records and leaves the annotations where they are. -/
lemma neighborInput_described_iff {fuel : ℕ} {enhanced : FeatureImage}
    {records : List FeatureRecord} {input : NeighborInput}
    (run : prepareNeighborInput fuel enhanced records = some input) :
    Described.UpTo (annotationOf enhanced) input.count input.records input.annotations ↔
      ∀ pair ∈ (SwapDelete.holes (maskRefuses (buildMask enhanced)) records).zip
          (SwapDelete.fillers (maskRefuses (buildMask enhanced)) records),
        annotationOf enhanced pair.2 = annotationOf enhanced pair.1 := by
  obtain ⟨change, classified, same⟩ := classified_eq_map records 24
  have sameRefusal (record : FeatureRecord) := (same record).maskRefuses_eq (buildMask enhanced)
  have annotated (record : FeatureRecord) := (same record).annotationOf_eq enhanced
  let refused := maskRefuses (buildMask enhanced)
  let kept := SwapDelete.survivors refused (records.map change)
  have annotations : buildAnnotations enhanced records =
      (records.map change).map (annotationOf enhanced) := by
    rw [List.map_map, buildAnnotations]
    exact List.map_congr_left fun record _ => (annotated record).symm
  have few : kept ≤ (records.map change).length := SwapDelete.survivors_le _
  have front : (SwapDelete.packed refused (records.map change)).length = kept :=
    SwapDelete.length_packed _
  have long : kept ≤ (SwapDelete.packed refused (records.map change) ++
      List.replicate ((records.map change).length - kept) FeatureRecord.zero).length := by
    rw [List.length_append, front]
    exact Nat.le_add_right _ _
  unfold prepareNeighborInput at run
  simp only [classified, filterMask_eq, annotations] at run
  obtain ⟨partitioned, parted, rfl⟩ := Option.map_eq_some_iff.mp run
  change Described.UpTo (annotationOf enhanced) kept (packRecords partitioned.1 kept)
    partitioned.2.1 ↔ _
  rw [Described.upTo_congr (map_packRecords enhanced _ _),
    partitionLoop_described (annotationOf enhanced) (Nat.zero_le _) le_rfl
      long (by rw [List.length_map]; exact few) parted,
    Described.upTo_iff_take,
    List.take_left' front, SwapDelete.map_packed_eq_iff, SwapDelete.holes_map change sameRefusal,
    SwapDelete.fillers_map change sameRefusal, List.zip_map, List.forall_mem_map]
  simp only [Prod.map, annotated]

/-- The annotations that the neighbour scores read are those of the records beside them if and only
if each survivor that the filter moved has the annotation of the refused record whose place it
took. -/
theorem annotations_stay_iff (fuel : ℕ) (enhanced : FeatureImage) (records : List FeatureRecord)
    (input : NeighborInput) (run : prepareNeighborInput fuel enhanced records = some input) :
    (∀ i < input.count, input.annotations[i]? = input.records[i]?.map (annotationOf enhanced)) ↔
      ∀ pair ∈ (SwapDelete.holes (maskRefuses (buildMask enhanced)) records).zip
          (SwapDelete.fillers (maskRefuses (buildMask enhanced)) records),
        annotationOf enhanced pair.2 = annotationOf enhanced pair.1 :=
  neighborInput_described_iff run

/-! ### A record beside the ridges

The left half of the image is blank, the right half carries ridges four pixels apart. -/

def halfRidged (x : ℕ) : UInt8 := if x < 40 then 0 else if x % 4 < 2 then 0 else 255

def ridgeMagnitude (x : ℕ) : ℕ :=
  if x < 39 then 0
  else if x < 43 then [26, 152, 302, 176].getD (x - 39) 0
  else if x < 77 then 148
  else [176, 274, 0].getD (x - 77) 0

/-- The magnitudes, the mask they make, and the pixels between the columns of the mask. -/
lemma halfRidged_columns : ∀ x < imageWidth, columnMagnitude halfRidged x = ridgeMagnitude x ∧
    (if 15 * ((List.range 15).map fun (dx : ℕ) =>
        ridgeMagnitude (temporalReflect101 ((x : ℤ) + dx - 7) imageWidth)).sum *
      (0x10000 / 225) / 0x10000 > 110 then 1 else 0) = (if x < 42 then 0 else 1) ∧
    (42 ≤ x → 25 ≤ (((halfRidged (x + 1)).toNat : ℤ) - (halfRidged (x - 1)).toNat) *
      (((halfRidged (x + 1)).toNat : ℤ) - (halfRidged (x - 1)).toNat)) := by
  decide +kernel

lemma columnMask_halfRidged {x : ℕ} (inside : x < imageWidth) :
    columnMask halfRidged x = if x < 42 then 0 else 1 := by
  have magnitude (dx : ℕ) := (halfRidged_columns _
    (temporalReflect101_lt ((x : ℤ) + dx - 7) imageWidth (by decide))).1
  unfold columnMask
  simp only [magnitude]
  exact (halfRidged_columns x inside).2.1

lemma columnValid_halfRidged {x : ℕ} (inside : x < imageWidth) :
    columnValid halfRidged x = if 43 ≤ x ∧ x < 79 then 1 else 0 := by
  unfold columnValid
  by_cases inner : 1 ≤ x ∧ x + 1 < imageWidth
  · obtain ⟨left, right⟩ := inner
    rw [columnMask_halfRidged inside, columnMask_halfRidged right,
      columnMask_halfRidged (by omega)]
    have steep := (halfRidged_columns x inside).2.2
    simp only [imageWidth] at right ⊢
    by_cases low : x < 43
    · have outside : x - 1 < 42 := by omega
      rw [if_neg fun supported => supported.1.2.2.1 (if_pos outside), if_neg (by omega)]
    · have within : 43 ≤ x ∧ x < 79 := by omega
      have columns : ¬x - 1 < 42 ∧ ¬x < 42 ∧ ¬x + 1 < 42 := by omega
      rw [if_neg columns.1, if_neg columns.2.1, if_neg columns.2.2, if_pos within]
      exact if_pos ⟨⟨left, right, one_ne_zero, one_ne_zero, one_ne_zero⟩, steep (by omega)⟩
  · rw [if_neg fun supported => inner ⟨supported.1.1, supported.1.2.1⟩]
    simp only [imageWidth] at inside inner
    rw [if_neg (by omega)]

lemma columnValidSum_halfRidged {x : ℕ} (inside : x < imageWidth) :
    columnValidSum halfRidged x =
      ((List.range (x + 1)).map fun x => if 43 ≤ x ∧ x < 79 then (1 : ℤ) else 0).sum := by
  unfold columnValidSum
  congr 1
  exact List.map_congr_left fun column listed =>
    columnValid_halfRidged (by have := List.mem_range.mp listed; omega)

def recordAt (x y : Int16) : FeatureRecord :=
  { FeatureRecord.zero with refinedX := x, refinedY := y }

/-- Outside the mask. -/
def blankRecord : FeatureRecord := recordAt 0x0800 0x2000

def ridgeRecord : FeatureRecord := recordAt 0x3e00 0x2000

lemma blankRecord_refused :
    maskRefuses (buildMask (columnImage halfRidged)) blankRecord = true := by
  have place : (blankRecord.unsignedX + 0x80) / 0x100 = 8 ∧
      (blankRecord.unsignedY + 0x80) / 0x100 = 32 := by decide
  unfold maskRefuses
  simp only [place, buildMask_columnImage, columnMask_halfRidged (show 8 < imageWidth by decide)]
  decide

lemma ridgeRecord_kept :
    maskRefuses (buildMask (columnImage halfRidged)) ridgeRecord = false := by
  have place : (ridgeRecord.unsignedX + 0x80) / 0x100 = 62 ∧
      (ridgeRecord.unsignedY + 0x80) / 0x100 = 32 := by decide
  unfold maskRefuses
  simp only [place, buildMask_columnImage, columnMask_halfRidged (show 62 < imageWidth by decide)]
  decide

lemma annotationOf_blankRecord : annotationOf (columnImage halfRidged) blankRecord = 0 := by
  have place : blankRecord.column = 8 ∧ blankRecord.row = 32 := by decide
  rw [annotationOf, place.1, place.2, annotationAt_columnImage 8 (by decide), columnSupport,
    columnValidSum_halfRidged (by decide), columnValidSum_halfRidged (by decide)]
  rfl

lemma annotationOf_ridgeRecord : annotationOf (columnImage halfRidged) ridgeRecord = 100 := by
  have place : ridgeRecord.column = 62 ∧ ridgeRecord.row = 32 := by decide
  rw [annotationOf, place.1, place.2, annotationAt_columnImage 62 (by decide), columnSupport,
    columnValidSum_halfRidged (by decide), columnValidSum_halfRidged (by decide)]
  decide +kernel

theorem annotations_stay_iff_ridgeRecord :
    ∃ fuel input, prepareNeighborInput fuel (columnImage halfRidged) [ridgeRecord] = some input ∧
      ∀ i < input.count, input.annotations[i]? =
        input.records[i]?.map (annotationOf (columnImage halfRidged)) := by
  obtain ⟨fuel, ends⟩ := prepareNeighborInput_ends (columnImage halfRidged) [ridgeRecord]
    fun record listed => by
      rw [List.mem_singleton.mp listed]
      exact Or.inl (by decide)
  obtain ⟨input, run⟩ := Option.isSome_iff_exists.mp ends
  refine ⟨fuel, input, run, (annotations_stay_iff fuel _ _ input run).mpr ?_⟩
  simp [SwapDelete.holes, SwapDelete.survivors, ridgeRecord_kept]

/-- The record beside the ridges is refused, the one on the ridges takes its place, and the
annotation that is read for it is that of the other. -/
theorem annotation_left_behind :
    ∃ fuel input, prepareNeighborInput fuel (columnImage halfRidged) [blankRecord, ridgeRecord] =
        some input ∧
      ¬ ∀ i < input.count, input.annotations[i]? =
        input.records[i]?.map (annotationOf (columnImage halfRidged)) := by
  obtain ⟨fuel, ends⟩ := prepareNeighborInput_ends (columnImage halfRidged)
    [blankRecord, ridgeRecord] fun record listed => by
      rcases List.mem_pair.mp listed with rfl | rfl <;> exact Or.inl (by decide)
  obtain ⟨input, run⟩ := Option.isSome_iff_exists.mp ends
  refine ⟨fuel, input, run, fun described => ?_⟩
  have pairs := (neighborInput_described_iff run).mp described
  have moved := pairs (blankRecord, ridgeRecord) (by
    simp [SwapDelete.holes, SwapDelete.fillers, SwapDelete.survivors, ridgeRecord_kept,
      blankRecord_refused])
  rw [annotationOf_blankRecord, annotationOf_ridgeRecord] at moved
  exact absurd moved (by decide)

end GoodixSpi.Chicago
