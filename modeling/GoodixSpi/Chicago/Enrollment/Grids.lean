import GoodixSpi.Chicago.Enrollment.Operation
import Mathlib.Data.List.GetD
import Mathlib.Data.List.Induction

/-! Samples that are grids of records, whose comparisons are known without searching for
correspondences, and the enrollments that insertions make of them. -/

namespace GoodixSpi.Chicago

open CArithmetic

/-- One of 21 records on a grid, told from the others by one descriptor byte. -/
def gridRecord (left top : Nat) (mark : UInt8) (index : Nat) : FeatureRecord where
  foreground := 0
  refinedX := Int16.ofNat (left + 0x180 * (index % 5))
  refinedY := Int16.ofNat (top + 0x180 * (index / 5))
  orientation := 0
  strength := 0
  descriptor := (Vector.replicate 48 0).setIfInBounds (4 + index) mark

/-- Two of the sixteen pixels that a shifted grid shares with an unshifted one are set. -/
def gridMetricData : MetricData :=
  { MetricData.zero with
    primary := ((Vector.replicate metricMapPackedBytes 0).setIfInBounds 0 3).setIfInBounds 144 0x30
    coarseMask := Vector.replicate metricMaskPackedBytes 0xff }

/-- Two grids match when they bear the same mark and only one of them is shifted. -/
def gridSample (shifted : Bool) (mark : UInt8) : Sample where
  records := (List.range 21).map
    (gridRecord (if shifted then 0 else 18432) (if shifted then 0 else 14336) mark)
  activeCount := 21
  quality := 80
  coverage := 90
  metricData := some gridMetricData

/-- One unshifted grid. -/
def gridGallery : Enrollment :=
  { Enrollment.new with
    subtemplates := [.fresh (gridSample false 1).records 21 80 90 (some gridMetricData) 0]
    matchOrder := Enrollment.new.setMatchOrder 0 0
    relations := [sentinelRelation]
    transformCount := 1 }

lemma step_gridGallery :
    Enrollment.new.step (.insertFirst (gridSample false 1)) = some gridGallery := rfl

lemma gridRecord_prepared {mark : UInt8} {index : Nat} (inside : index < 21) :
    (gridRecord 18432 14336 mark index).Prepared := by
  have coordinates : ∀ index < 21,
      (gridRecord 18432 14336 0 index).unsignedX % 0x10 = 0 ∧
        (gridRecord 18432 14336 0 index).unsignedY % 0x10 = 0 := by decide
  exact ⟨(coordinates index inside).1, (coordinates index inside).2, 0, by decide, by decide, rfl⟩

/-! ### Comparing two grids -/

/-- The marks: one bit each. -/
def IsMark (mark : UInt8) : Prop := mark = 1 ∨ mark = 2 ∨ mark = 4

/-- One word of a grid record bears the mark, every other is zero. -/
lemma gridRecord_word {left top index word : Nat} {mark : UInt8} (inside : index < 21) :
    (gridRecord left top mark index).descriptorWord (4 + 4 * word) =
      if index / 4 = word then UInt32.ofNat (mark.toNat * 0x100 ^ (index % 4)) else 0 := by
  have bytes : (gridRecord left top mark index).descriptor.toList =
      (List.replicate 48 0).set (4 + index) mark := by
    simp [gridRecord, Vector.toList, Vector.toArray_setIfInBounds]
  have byte : ∀ place < 4, ((((List.replicate 48 0).set (4 + index) mark).drop
      (4 + 4 * word)).take 4).getD place 0 = if index = 4 * word + place then mark else 0 := by
    intro place small
    rw [List.getD_eq_getElem?_getD, List.getElem?_take_of_lt small, List.getElem?_drop,
      List.getElem?_set, List.length_replicate, List.getElem?_replicate]
    by_cases same : index = 4 * word + place
    · rw [if_pos (by omega), if_pos (by omega), if_pos same, Option.getD_some]
    · rw [if_neg (by omega), if_neg same]
      split <;> rfl
  simp only [FeatureRecord.descriptorWord, bytes, LittleEndian.word]
  rw [byte 0 (by omega), byte 1 (by omega), byte 2 (by omega), byte 3 (by omega)]
  by_cases here : index / 4 = word
  · obtain ⟨rest, small, rfl⟩ : ∃ rest < 4, index = 4 * word + rest :=
      ⟨index % 4, Nat.mod_lt _ (by decide), by omega⟩
    rw [if_pos here, show (4 * word + rest) % 4 = rest by omega]
    simp only [Nat.add_left_cancel_iff]
    have places : rest = 0 ∨ rest = 1 ∨ rest = 2 ∨ rest = 3 := by omega
    rcases places with rfl | rfl | rfl | rfl <;> simp [Nat.mul_comm]
  · rw [if_neg here, if_neg (by omega), if_neg (by omega), if_neg (by omega), if_neg (by omega)]
    rfl

lemma popCount_marks {first second : UInt8} (one : IsMark first) (other : IsMark second) :
    ∀ a < 4, ∀ b < 4, popCount (UInt32.ofNat (first.toNat * 0x100 ^ a) ^^^
      UInt32.ofNat (second.toNat * 0x100 ^ b)) = if first = second ∧ a = b then 0 else 2 := by
  rcases one with rfl | rfl | rfl <;> rcases other with rfl | rfl | rfl <;> decide

lemma popCount_mark {mark : UInt8} (marked : IsMark mark) :
    ∀ a < 4, popCount (UInt32.ofNat (mark.toNat * 0x100 ^ a)) = 1 := by
  rcases marked with rfl | rfl | rfl <;> decide

/-- Two records of marked grids differ in two bits, unless they are the same record. -/
lemma descriptorDistance_grid {left top left' top' i j : Nat} {first second : UInt8}
    (one : IsMark first) (other : IsMark second) (inside : i < 21) (inside' : j < 21) :
    descriptorDistance (gridRecord left top first i) (gridRecord left' top' second j) =
      if first = second ∧ i = j then 0 else 2 := by
  have word : ∀ word, popCount ((gridRecord left top first i).descriptorWord (4 + 4 * word) ^^^
      (gridRecord left' top' second j).descriptorWord (4 + 4 * word)) =
        if i / 4 = word then if j / 4 = word then if first = second ∧ i = j then 0 else 2 else 1
        else if j / 4 = word then 1 else 0 := by
    intro word
    rw [gridRecord_word inside, gridRecord_word inside']
    have a := Nat.mod_lt i (show 0 < 4 by decide)
    have b := Nat.mod_lt j (show 0 < 4 by decide)
    by_cases here : i / 4 = word <;> by_cases there : j / 4 = word
    · have same : i % 4 = j % 4 ↔ i = j := by omega
      simp only [if_pos here, if_pos there, popCount_marks one other _ a _ b, same]
    · simp only [if_pos here, if_neg there, UInt32.xor_zero, popCount_mark one _ a]
    · simp only [if_neg here, if_pos there, UInt32.zero_xor, popCount_mark other _ b]
    · simp only [if_neg here, if_neg there, UInt32.xor_self, popCount_zero]
  have total : ∀ p < 6, ∀ q < 6, ∀ shared < 3, ((List.range 6).map fun word =>
      if p = word then if q = word then shared else 1 else if q = word then 1 else 0).sum =
        if p = q then shared else 2 := by decide
  simp only [descriptorDistance, hammingWords, word]
  rw [total (i / 4) (by omega) (j / 4) (by omega) _ (by split <;> decide)]
  by_cases shared : i / 4 = j / 4
  · rw [if_pos shared]
  · rw [if_neg shared, if_neg (by rintro ⟨-, rfl⟩; exact shared rfl)]

/-- A record of a grid has no record on a grid with another mark that is closer than the
others, and its own counterpart on a grid with the same mark. -/
lemma candidate_grid {left top left' top' i : Nat} {first second : UInt8}
    (one : IsMark first) (other : IsMark second) (inside : i < 21) :
    (closestRecords (gridRecord left top first i)
        ((List.range 21).map (gridRecord left' top' second))).candidate i =
      if first = second then some ⟨i, i, 0, 2⟩ else none := by
  have closest : closestRecords (gridRecord left top first i)
      ((List.range 21).map (gridRecord left' top' second)) =
        (List.range 21).foldl (fun closest j =>
          closest.update (if first = second ∧ i = j then 0 else 2) j) .init := by
    simp only [closestRecords, List.zipIdx_map,
      show (List.range 21).zipIdx = (List.range 21).map fun j => (j, j) from rfl, List.map_map,
      List.foldl_map]
    refine List.foldl_ext _ _ _ fun closest j listed => ?_
    exact congrArg (closest.update · j)
      (descriptorDistance_grid one other inside (List.mem_range.mp listed))
  have scan : ∀ same : Bool, ∀ i < 21, ((List.range 21).foldl (fun (closest : ClosestTwo) j =>
      closest.update (if same = true ∧ i = j then 0 else 2) j) .init).candidate i =
        if same then some ⟨i, i, 0, 2⟩ else none := by decide
  rw [closest]
  have found := scan (decide (first = second)) i inside
  simpa only [decide_eq_true_eq] using found

lemma findCorrespondences_grid {earlier shifted : Bool} {first second : UInt8}
    (one : IsMark first) (other : IsMark second) :
    findCorrespondences (gridSample earlier first).records (gridSample shifted second).records =
      if first = second then
        (((List.range 21).map fun i => ⟨i, i, 0, 2⟩).foldl (selectCandidate correspondenceLimit
          (gridSample shifted second).records) []).map fun selected =>
            ⟨selected.oldIndex, selected.newIndex⟩
      else [] := by
  have candidates : (gridSample earlier first).records.zipIdx.filterMap (fun entry =>
      (closestRecords entry.1 (gridSample shifted second).records).candidate entry.2) =
        if first = second then (List.range 21).map fun i => ⟨i, i, 0, 2⟩ else [] := by
    simp only [gridSample, List.zipIdx_map,
      show (List.range 21).zipIdx = (List.range 21).map fun j => (j, j) from rfl, List.map_map,
      List.filterMap_map]
    rw [List.filterMap_congr (g := fun i => if first = second then some ⟨i, i, 0, 2⟩ else none)]
    · split
      · exact congrFun List.filterMap_eq_map' _
      · exact List.filterMap_none _
    · intro i listed
      simpa only [Function.comp_apply, Prod.map_fst, Prod.map_snd, id_eq] using
        candidate_grid one other (List.mem_range.mp listed)
  simp only [findCorrespondences, candidates]
  split <;> rfl

/-- Every record of a shifted grid is found again, for no two lie close together. -/
lemma findCorrespondences_shifted {mark : UInt8} (marked : IsMark mark) :
    findCorrespondences (gridSample false mark).records (gridSample true mark).records =
      (List.range 21).map fun i => ⟨i, i⟩ := by
  rw [findCorrespondences_grid marked marked, if_pos rfl]
  rcases marked with rfl | rfl | rfl <;> decide +kernel

lemma buildRelation_shifted {mark : UInt8} (marked : IsMark mark) :
    (buildRelation (gridSample false mark).records gridMetricData (gridSample true mark).records
      gridMetricData).relation = ⟨21, #v[0x100, 0, 18432, 0, 0x100, 14336]⟩ := by
  simp only [buildRelation, findCorrespondences_shifted marked]
  rcases marked with rfl | rfl | rfl <;> decide +kernel

/-- Enough inliers are evidence whatever the metrics are. -/
lemma evidence_of_inliers {old new : List FeatureRecord} {oldData newData : MetricData}
    (many : 11 ≤ (buildRelation old oldData new newData).relation.inlierCount.toInt) :
    (buildRelation old oldData new newData).evidenceAccepted = true := by
  simp only [buildRelation] at many ⊢
  generalize estimateTransform _ = estimate at many ⊢
  have enough : 11 ≤ estimate.inlierCount := by
    by_contra few
    rw [Int32.toInt_ofNat_of_lt (by omega)] at many
    omega
  simp [evidenceIsAccepted, enough]

/-- What a shifted grid learns about an unshifted one with its own mark, and any grid about one
with another mark. -/
def gridComparison (mark earlier : UInt8) : Enrollment.Comparison :=
  if earlier = mark then ⟨⟨21, #v[0x100, 0, 18432, 0, 0x100, 14336]⟩, true⟩
  else ⟨sentinelRelation, false⟩

lemma compare_grid {old : Subtemplate} {shifted earlier : Bool} {mark first : UInt8}
    (records : old.records = (gridSample earlier first).records)
    (data : old.metricData = gridMetricData)
    (one : IsMark first) (other : IsMark mark)
    (known : first = mark → earlier = false ∧ shifted = true) :
    Enrollment.compare (gridSample shifted mark) gridMetricData old =
      gridComparison mark first := by
  by_cases same : first = mark
  · obtain ⟨rfl, rfl⟩ := known same
    subst same
    have built := buildRelation_shifted one
    have accepted := evidence_of_inliers (show 11 ≤ _ by rw [built]; decide)
    simp only [Enrollment.compare, records, data, accepted, built]
    rw [gridComparison, if_pos rfl, if_neg (by decide)]
  · have apart : findCorrespondences old.records (gridSample shifted mark).records = [] := by
      rw [records, findCorrespondences_grid one other, if_neg same]
    rw [gridComparison, if_neg same]
    simp only [Enrollment.compare, buildRelation, apart, List.filterMap_nil]
    rfl

/-- Whether a grid is shifted, and its mark. -/
abbrev Grid := Bool × UInt8

namespace Enrollment

/-- The sub-templates are grids, and there is room for more. -/
structure OnGrids (e : Enrollment) (grids : List Grid) : Prop where
  capacity : e.capacity = enrollmentCapacity
  recordLimit : 21 ≤ e.recordLimit
  subtemplates : (e.subtemplates.map fun subtemplate =>
      (subtemplate.records, subtemplate.metricData, subtemplate.hasMetricData)) =
    grids.map fun grid => ((gridSample grid.1 grid.2).records, gridMetricData, true)

/-- The grids bear marks, and of two with one mark the earlier is not shifted and the later is. -/
def Apart (grids : List Grid) : Prop :=
  (∀ grid ∈ grids, IsMark grid.2) ∧
    grids.Pairwise fun old new => old.2 = new.2 → old.1 = false ∧ new.1 = true

/-- Inserting grids, with what each learns about the earlier ones written down. -/
def insertGrids (self : Enrollment) (earlier : List Grid) : List Grid → Enrollment
  | [] => self
  | grid :: later =>
    insertGrids (self.insertCompared (gridSample grid.1 grid.2) gridMetricData
      (earlier.map fun old => gridComparison grid.2 old.2)) (earlier ++ [grid]) later

variable {self other : Enrollment} {earlier later : List Grid}

lemma OnGrids.count (h : self.OnGrids earlier) : self.count = earlier.length := by
  simpa [Enrollment.count] using congrArg List.length h.subtemplates

lemma OnGrids.comparisons {grid : Grid} (h : self.OnGrids earlier)
    (apart : Apart (earlier ++ [grid])) :
    self.subtemplates.map (compare (gridSample grid.1 grid.2) gridMetricData) =
      earlier.map fun old => gridComparison grid.2 old.2 := by
  have seen := congrArg (List.map fun (entry : List FeatureRecord × MetricData × Bool) =>
    compare (gridSample grid.1 grid.2) gridMetricData
      (.fresh entry.1 0 0 0 (some entry.2.1) 0)) h.subtemplates
  rw [List.map_map, List.map_map] at seen
  refine Eq.trans seen (List.map_congr_left fun old listed => ?_)
  obtain ⟨marks, order⟩ := apart
  refine compare_grid rfl rfl (marks old (by simp [listed])) (marks grid (by simp)) ?_
  exact (List.pairwise_append.mp order).2.2 old listed grid (by simp)

lemma OnGrids.inserted {grid : Grid} (h : self.OnGrids earlier)
    (comparisons : List Comparison) :
    (self.insertCompared (gridSample grid.1 grid.2) gridMetricData comparisons).OnGrids
      (earlier ++ [grid]) := by
  have grows := (insertCompared_outcome self (gridSample grid.1 grid.2) gridMetricData
    comparisons).grows
  refine ⟨grows.capacity.trans h.capacity, grows.recordLimit.symm ▸ h.recordLimit, ?_⟩
  have kept := congrArg (List.map fun (subtemplate : Subtemplate) =>
    (subtemplate.records, subtemplate.metricData, subtemplate.hasMetricData)) grows.cores
  rw [List.map_append, List.map_map, List.map_map] at kept
  rw [List.map_append, ← h.subtemplates]
  exact kept

lemma OnGrids.insertNext {grid : Grid} (h : self.OnGrids earlier) (started : earlier ≠ [])
    (room : earlier.length < enrollmentCapacity) (apart : Apart (earlier ++ [grid])) :
    self.step (.insertNext (gridSample grid.1 grid.2)) =
      some (self.insertCompared (gridSample grid.1 grid.2) gridMetricData
        (earlier.map fun old => gridComparison grid.2 old.2)) := by
  have length : (gridSample grid.1 grid.2).records.length = 21 := by simp [gridSample]
  have metric : ∀ old ∈ self.subtemplates, old.hasMetricData = true := by
    intro old listed
    have entry := List.mem_map_of_mem (f := fun (subtemplate : Subtemplate) =>
      (subtemplate.records, subtemplate.metricData, subtemplate.hasMetricData)) listed
    rw [h.subtemplates] at entry
    obtain ⟨grid, -, same⟩ := List.mem_map.mp entry
    exact (Prod.ext_iff.mp (Prod.ext_iff.mp same).2).2.symm
  rw [← h.comparisons apart]
  refine step_insertNext rfl ?_ ?_ (length.trans_le h.recordLimit) length.ge metric
  · rw [h.count]
    exact List.length_pos_iff.mpr started |>.ne'
  · rwa [h.count, h.capacity]

lemma OnGrids.run (h : self.OnGrids earlier) (started : earlier ≠ [])
    (room : (earlier ++ later).length ≤ enrollmentCapacity) (apart : Apart (earlier ++ later)) :
    Reachability.run step self (later.map fun grid => .insertNext (gridSample grid.1 grid.2)) =
        some (self.insertGrids earlier later) ∧
      (self.insertGrids earlier later).OnGrids (earlier ++ later) := by
  induction later generalizing self earlier with
  | nil => exact ⟨rfl, by rwa [List.append_nil]⟩
  | cons grid later ih =>
    rw [List.append_cons] at room apart ⊢
    have first : Apart (earlier ++ [grid]) :=
      ⟨fun old listed => apart.1 old (List.mem_append_left _ listed),
        (List.pairwise_append.mp apart.2).1⟩
    have short : earlier.length < enrollmentCapacity := by
      simp only [List.length_append, List.length_cons, List.length_nil] at room
      omega
    rw [List.map_cons, Reachability.run_of_step (h.insertNext started short first)]
    exact ih (h.inserted _) (by simp) room apart

lemma OnGrids.dropLast {grid : Grid} (h : self.OnGrids (earlier ++ [grid]))
    (succeeds : self.step .dropLast = some other) : other.OnGrids earlier := by
  obtain ⟨kept, last, split, rfl⟩ := dropLast_ok (ok_of_toOption succeeds)
  refine ⟨h.capacity, h.recordLimit, ?_⟩
  have shorter := congrArg List.dropLast h.subtemplates
  rw [split, List.map_append, List.map_append] at shorter
  simp only [List.map_cons, List.map_nil, List.dropLast_concat] at shorter
  exact shorter

lemma OnGrids.drops (h : self.OnGrids (earlier ++ later))
    (runs : Reachability.run step self (List.replicate later.length .dropLast) = some other) :
    other.OnGrids earlier := by
  induction later using List.reverseRecOn generalizing self with
  | nil =>
    cases runs
    rwa [List.append_nil] at h
  | append_singleton rest grid ih =>
    rw [List.length_append, List.length_singleton, List.replicate_succ, Reachability.run] at runs
    split at runs
    · cases runs
    · next dropped succeeds =>
      rw [← List.append_assoc] at h
      exact ih (h.dropLast succeeds) runs

end Enrollment

lemma onGrids_gridGallery : gridGallery.OnGrids [(false, 1)] := ⟨rfl, by decide, rfl⟩

end GoodixSpi.Chicago
