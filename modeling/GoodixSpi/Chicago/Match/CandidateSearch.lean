import GoodixSpi.Chicago.Match.CapacityFallback
import GoodixSpi.Lib.Collect
import GoodixSpi.Lib.FirstBest
import Mathlib.Order.OrderDual

/-! The candidate search against its specification: the distance without sentinels, the two
nearest records of the same class, and a byte matrix that has room for every distance. -/

namespace GoodixSpi.Chicago

open CArithmetic

/-! ### The distance -/

section Distance

lemma bitCount_succ (width n : Nat) :
    bitCount (width + 1) n = n % 2 + bitCount width (n / 2) := by
  rw [bitCount]
  split
  · next zero =>
    subst zero
    cases width with
    | zero => rfl
    | succ width => rfl
  · rfl

lemma bitCount_complement (width n : Nat) (small : n < 2 ^ width) :
    bitCount width (2 ^ width - 1 - n) = width - bitCount width n := by
  induction width generalizing n with
  | zero => rfl
  | succ width ih =>
    have half := ih (n / 2) (by omega)
    have bound := bitCount_le width (n / 2)
    have quotient : (2 ^ (width + 1) - 1 - n) / 2 = 2 ^ width - 1 - n / 2 := by omega
    have parity : (2 ^ (width + 1) - 1 - n) % 2 = 1 - n % 2 := by omega
    rw [bitCount_succ, bitCount_succ, quotient, parity, half]
    omega

lemma popCount_complement (word : UInt32) : popCount (~~~word) = 32 - popCount word := by
  have small := word.toNat_lt
  rw [popCount, UInt32.toNat_not]
  exact bitCount_complement 32 word.toNat small

/-- The distance to the descriptor of the opposite polarity. -/
def opposedWords (a : FeatureRecord) (aOffset : Nat) (b : FeatureRecord) (bOffset words : Nat) :
    Nat :=
  ((List.range words).map fun word =>
    popCount (a.descriptorWord (aOffset + 4 * word) ^^^
      ~~~b.descriptorWord (bOffset + 4 * word))).sum

/-- What differs in one polarity is equal in the other. -/
lemma opposedWords_add (a : FeatureRecord) (aOffset : Nat) (b : FeatureRecord)
    (bOffset words : Nat) :
    opposedWords a aOffset b bOffset words + hammingWords a aOffset b bOffset words =
      32 * words := by
  unfold opposedWords hammingWords
  induction words with
  | zero => rfl
  | succ words ih =>
    have bound := popCount_le (a.descriptorWord (aOffset + 4 * words) ^^^
      b.descriptorWord (bOffset + 4 * words))
    rw [List.range_succ, List.map_append, List.map_append, List.sum_append, List.sum_append,
      List.map_singleton, List.map_singleton, List.sum_singleton, List.sum_singleton,
      UInt32.xor_not, popCount_complement]
    omega

variable (firstHalfGate combinedGate : Nat) (old new : FeatureRecord)

/-- A distance whose first four words pass the combined gate. -/
def combined (head tail : Nat) : Option Nat :=
  if head ≤ combinedGate then some (head + tail) else none

/-- The descriptors as they are. -/
def straightDistance : Option Nat :=
  combined combinedGate (hammingWords old 4 new 4 2 + hammingWords old 12 new 12 2)
    (hammingWords old 20 new 20 1 + hammingWords old 28 new 28 1)

/-- The second half in the opposite polarity, and the tail against the new record's turned one. -/
def reversedDistance : Option Nat :=
  combined combinedGate (hammingWords old 4 new 4 2 + opposedWords old 12 new 12 2)
    (hammingWords old 20 new 24 1 + hammingWords old 28 new 36 1)

/-- The smaller of the two that pass, if the first half does. -/
def nearestDistance : Option Nat :=
  if hammingWords old 4 new 4 2 ≤ firstHalfGate then
    (straightDistance combinedGate old new).merge min (reversedDistance combinedGate old new)
  else none

lemma hammingWords_le (a : FeatureRecord) (aOffset : Nat) (b : FeatureRecord)
    (bOffset words : Nat) : hammingWords a aOffset b bOffset words ≤ 32 * words := by
  have sum := opposedWords_add a aOffset b bOffset words
  omega

variable {firstHalfGate combinedGate old new}

/-- The sentinels of 192 never win. -/
lemma gatedDistance_eq (config : MatchCandidateConfig) :
    gatedDistance config old new =
      nearestDistance config.firstHalfGate config.combinedGate old new := by
  have opposed := opposedWords_add old 12 new 12 2
  have straightA := hammingWords_le old 20 new 20 1
  have straightB := hammingWords_le old 28 new 28 1
  have reversedA := hammingWords_le old 20 new 24 1
  have reversedB := hammingWords_le old 28 new 36 1
  have polarity : hammingWords old 4 new 4 2 + 64 - hammingWords old 12 new 12 2 =
      hammingWords old 4 new 4 2 + opposedWords old 12 new 12 2 := by omega
  unfold gatedDistance nearestDistance straightDistance reversedDistance combined
  simp only [polarity]
  by_cases first : hammingWords old 4 new 4 2 ≤ config.firstHalfGate
  · rw [if_neg (not_lt.mpr first), if_pos first]
    by_cases straight : hammingWords old 4 new 4 2 + hammingWords old 12 new 12 2 ≤
        config.combinedGate
    · rw [if_neg fun both => absurd both.1 (not_lt.mpr straight), if_pos straight,
        if_neg (not_lt.mpr straight)]
      by_cases reversed : hammingWords old 4 new 4 2 + opposedWords old 12 new 12 2 ≤
          config.combinedGate
      · rw [if_pos reversed, if_neg (not_lt.mpr reversed)]
        rfl
      · rw [if_neg reversed, if_pos (not_le.mp reversed)]
        exact congrArg some (Nat.min_eq_left (by omega))
    · by_cases reversed : hammingWords old 4 new 4 2 + opposedWords old 12 new 12 2 ≤
          config.combinedGate
      · rw [if_neg fun both => absurd both.2 (not_lt.mpr reversed), if_neg straight,
          if_pos (not_le.mp straight), if_pos reversed, if_neg (not_lt.mpr reversed)]
        exact congrArg some (Nat.min_eq_right (by omega))
      · rw [if_pos ⟨not_le.mp straight, not_le.mp reversed⟩, if_neg straight, if_neg reversed]
        rfl
  · rw [if_pos (not_le.mp first), if_neg first]

/-- A distance that passes the gate is at most 64 above it. -/
lemma nearestDistance_le {distance : Nat}
    (found : nearestDistance firstHalfGate combinedGate old new = some distance) :
    distance ≤ combinedGate + 64 := by
  have straightA := hammingWords_le old 20 new 20 1
  have straightB := hammingWords_le old 28 new 28 1
  have reversedA := hammingWords_le old 20 new 24 1
  have reversedB := hammingWords_le old 28 new 36 1
  unfold nearestDistance straightDistance reversedDistance combined at found
  split at found
  · split at found
    · split at found
      · cases found
        omega
      · cases found
        omega
    · split at found
      · cases found
        omega
      · cases found
  · cases found

end Distance

/-! ### The two nearest entries -/

section TwoNearest

open FirstBest

/-- The nearer, the higher. -/
def closeness (entry : Nat × Nat) : ℕᵒᵈ := OrderDual.toDual entry.1

/-- The first of the nearest entries; the start stands for none. -/
def Nearest (entries : List (Nat × Nat)) (distance : Nat) (index : Option Nat) : Prop :=
  Best closeness entries (index.map (distance, ·)) ∧ (index = none → distance = 192)

/-- The nearest entry, and the nearest of the others. -/
def TwoNearest (entries : List (Nat × Nat)) (candidate : MatchCandidate) : Prop :=
  Nearest entries candidate.bestDistance candidate.bestIndex ∧
    Nearest (match candidate.bestIndex with
      | none => entries
      | some index => entries.erase (candidate.bestDistance, index))
      candidate.secondDistance candidate.secondIndex

variable {entries : List (Nat × Nat)} {distance held index : Nat} {best : Option Nat}

lemma Nearest.push (nearest : Nearest entries held best) (near : distance < 192) (index : Nat) :
    if distance < held then Nearest (entries ++ [(distance, index)]) distance (some index)
    else Nearest (entries ++ [(distance, index)]) held best := by
  obtain ⟨first, start⟩ := nearest
  cases best with
  | none =>
    have empty : entries = [] := first
    rw [start rfl, if_pos near, empty]
    exact ⟨⟨[], [], rfl, by simp, by simp⟩, by simp⟩
  | some other =>
    have kept : Best closeness (entries ++ [(distance, index)])
        (if distance < held then some (distance, index) else some (held, other)) :=
      Wins.keep first (distance, index)
    by_cases nearer : distance < held
    · rw [if_pos nearer] at kept ⊢
      exact ⟨kept, by simp⟩
    · rw [if_neg nearer] at kept ⊢
      exact ⟨kept, by simp⟩

lemma Nearest.mem (nearest : Nearest entries held (some index)) : (held, index) ∈ entries :=
  Wins.mem nearest.1

lemma twoNearest_init : TwoNearest [] .init := ⟨⟨rfl, fun _ => rfl⟩, ⟨rfl, fun _ => rfl⟩⟩

/-- One update with an entry that was not there. -/
lemma TwoNearest.update {candidate : MatchCandidate} (two : TwoNearest entries candidate)
    (near : distance < 192) (fresh : (distance, index) ∉ entries) :
    TwoNearest (entries ++ [(distance, index)]) (candidate.update distance index) := by
  obtain ⟨first, second⟩ := two
  have best := first.push near index
  have others := second.push near index
  unfold MatchCandidate.update
  by_cases nearer : distance < candidate.bestDistance
  · rw [if_pos nearer] at best ⊢
    refine ⟨best, ?_⟩
    have rest : (entries ++ [(distance, index)]).erase (distance, index) = entries := by
      rw [List.erase_append_right _ fresh, List.erase_cons_head, List.append_nil]
    simp only [rest]
    exact first
  · rw [if_neg nearer] at best ⊢
    cases given : candidate.bestIndex with
    | none => exact absurd (near.trans_eq (first.2 given).symm) nearer
    | some held =>
      rw [given] at first others best
      have rest : (entries ++ [(distance, index)]).erase (candidate.bestDistance, held) =
          entries.erase (candidate.bestDistance, held) ++ [(distance, index)] :=
        List.erase_append_left _ first.mem
      by_cases second : distance < candidate.secondDistance
      · rw [if_pos second] at others ⊢
        simp only [TwoNearest, rest]
        exact ⟨best, others⟩
      · rw [if_neg second] at others ⊢
        simp only [TwoNearest, given, rest]
        exact ⟨best, others⟩

/-- The fold over entries that are all different and all nearer than the start. -/
lemma twoNearest_foldl (entries : List (Nat × Nat)) (different : entries.Nodup)
    (near : ∀ entry ∈ entries, entry.1 < 192) :
    TwoNearest entries
      (entries.foldl (fun candidate entry => candidate.update entry.1 entry.2) .init) := by
  induction entries using List.reverseRecOn with
  | nil => exact twoNearest_init
  | append_singleton entries last ih =>
    rw [List.nodup_append] at different
    have fresh : last ∉ entries := fun listed =>
      different.2.2 last listed last (List.mem_singleton_self last) rfl
    have before := ih different.1 fun entry listed =>
      near entry (List.mem_append_left _ listed)
    rw [List.foldl_append]
    exact before.update (near last (List.mem_append_right _ (List.mem_singleton_self last))) fresh

end TwoNearest

/-! ### The rows -/

section Rows

variable {config : MatchCandidateConfig} {old : FeatureRecord} {newRecords : List FeatureRecord}

/-- The distance to a record that the search looks at. -/
def distanceTo (firstHalfGate combinedGate : Nat) (old : FeatureRecord)
    (newRecords : List FeatureRecord) (index : Nat) : Option Nat :=
  newRecords[index]?.bind (nearestDistance firstHalfGate combinedGate old)

/-- The distances that pass the gates, with their indices. -/
def gatedEntries (firstHalfGate combinedGate : Nat) (old : FeatureRecord)
    (newRecords : List FeatureRecord) (indices : List Nat) : List (Nat × Nat) :=
  indices.filterMap fun index =>
    (distanceTo firstHalfGate combinedGate old newRecords index).map fun distance =>
      (distance, index)

def CandidateRow.distanceAt (row : CandidateRow) (index : Nat) : UInt8 :=
  row.distances.toList.getD index 0xff

lemma CandidateRow.update_eq (row : CandidateRow) (index : Nat) :
    row.update config old newRecords index =
      match distanceTo config.firstHalfGate config.combinedGate old newRecords index with
      | none => row
      | some distance => ⟨row.candidate.update distance index,
          row.distances.setIfInBounds index (UInt8.ofNat distance)⟩ := by
  have same : gatedDistance config old =
      nearestDistance config.firstHalfGate config.combinedGate old :=
    funext fun new => gatedDistance_eq config
  rw [CandidateRow.update, same]
  rfl

/-- A scan of a row updates the candidate with the entries that pass. -/
lemma candidate_scan (indices : List Nat) (row : CandidateRow) :
    (indices.foldl (CandidateRow.update config old newRecords) row).candidate =
      (gatedEntries config.firstHalfGate config.combinedGate old newRecords indices).foldl
        (fun candidate entry => candidate.update entry.1 entry.2) row.candidate := by
  induction indices generalizing row with
  | nil => rfl
  | cons index rest ih =>
    rw [List.foldl_cons, ih, CandidateRow.update_eq, gatedEntries, gatedEntries,
      List.filterMap_cons]
    cases distanceTo config.firstHalfGate config.combinedGate old newRecords index with
    | none => rfl
    | some distance => rfl

lemma distanceAt_update {row : CandidateRow} {index : Nat} (inside : index < matchMatrixStride)
    (other : Nat) : (row.update config old newRecords index).distanceAt other =
      match distanceTo config.firstHalfGate config.combinedGate old newRecords index with
      | none => row.distanceAt other
      | some distance => if index = other then UInt8.ofNat distance else row.distanceAt other := by
  rw [CandidateRow.update_eq]
  cases distanceTo config.firstHalfGate config.combinedGate old newRecords index with
  | none => rfl
  | some distance =>
    dsimp only [CandidateRow.distanceAt]
    rw [Collect.getD_setIfInBounds]
    by_cases same : index = other
    · rw [if_pos ⟨same, inside⟩, if_pos same]
    · rw [if_neg fun both => same both.1, if_neg same]

/-- A scan writes the distances to the records that it looks at. -/
lemma distanceAt_scan {indices : List Nat} (inside : ∀ index ∈ indices, index < matchMatrixStride)
    (row : CandidateRow) (other : Nat) :
    (indices.foldl (CandidateRow.update config old newRecords) row).distanceAt other =
      if other ∈ indices then
        ((distanceTo config.firstHalfGate config.combinedGate old newRecords other).map
          UInt8.ofNat).getD (row.distanceAt other)
      else row.distanceAt other := by
  induction indices generalizing row with
  | nil => rfl
  | cons index rest ih =>
    rw [List.foldl_cons, ih fun other listed => inside other (.tail _ listed),
      distanceAt_update (inside index List.mem_cons_self)]
    by_cases same : index = other
    · subst same
      rw [if_pos List.mem_cons_self]
      cases distanceTo config.firstHalfGate config.combinedGate old newRecords index with
      | none => simp
      | some distance => simp
    · have listed : other ∈ index :: rest ↔ other ∈ rest := by
        rw [List.mem_cons, or_iff_right (Ne.symm same)]
      simp only [listed]
      cases distanceTo config.firstHalfGate config.combinedGate old newRecords index with
      | none => rfl
      | some distance => simp only [if_neg same]

/-- One of the two calls, on the rows of its range and on the others. -/
lemma updateCandidates_row {oldRecords : List FeatureRecord} {rows : List CandidateRow}
    {row : CandidateRow} {index : Nat} (guard : config.oldBegin ≤ config.oldEnd ∧
      config.newBegin ≤ config.newEnd ∧ config.newEnd ≤ matchMatrixStride)
    (record : oldRecords[index]? = some old) (here : rows[index]? = some row) :
    (updateCandidates oldRecords newRecords config rows)[index]? = some
      (if config.oldBegin ≤ index ∧ index < config.oldEnd then
        (List.range' config.newBegin (config.newEnd - config.newBegin)).foldl
          (CandidateRow.update config old newRecords) row
      else row) := by
  rw [updateCandidates, if_pos guard, List.getElem?_mapIdx, here, Option.map_some, record]

end Rows

/-! ### The whole search -/

/-- The probe records of the same class, in order. -/
def partners (gallerySplit probeCount probeSplit index : Nat) : List Nat :=
  (List.range probeCount).filter fun other => decide (other < probeSplit ↔ index < gallerySplit)

lemma partners_eq {gallerySplit probeCount probeSplit : Nat} (inside : probeSplit ≤ probeCount)
    (index : Nat) :
    partners gallerySplit probeCount probeSplit index =
      if index < gallerySplit then List.range' 0 (probeSplit - 0)
      else List.range' probeSplit (probeCount - probeSplit) := by
  have split : List.range' 0 probeSplit ++ List.range' probeSplit (probeCount - probeSplit) =
      List.range probeCount := by
    have joined := @List.range'_append_1 0 probeSplit (probeCount - probeSplit)
    rw [Nat.zero_add, Nat.add_sub_cancel' inside] at joined
    rw [joined, List.range_eq_range']
  have front : ∀ other ∈ List.range' 0 probeSplit, other < probeSplit := by
    intro other listed
    rw [List.mem_range'_1] at listed
    omega
  have back : ∀ other ∈ List.range' probeSplit (probeCount - probeSplit), ¬other < probeSplit := by
    intro other listed
    rw [List.mem_range'_1] at listed
    omega
  rw [partners, ← split, List.filter_append, Nat.sub_zero]
  by_cases active : index < gallerySplit
  · have kept : (List.range' 0 probeSplit).filter
        (fun other => decide (other < probeSplit ↔ index < gallerySplit)) = _ :=
      List.filter_eq_self.mpr fun other listed =>
        decide_eq_true (iff_of_true (front other listed) active)
    have dropped : (List.range' probeSplit (probeCount - probeSplit)).filter
        (fun other => decide (other < probeSplit ↔ index < gallerySplit)) = [] :=
      List.filter_eq_nil_iff.mpr fun other listed same =>
        back other listed ((of_decide_eq_true same).mpr active)
    rw [kept, dropped, List.append_nil, if_pos active]
  · have dropped : (List.range' 0 probeSplit).filter
        (fun other => decide (other < probeSplit ↔ index < gallerySplit)) = [] :=
      List.filter_eq_nil_iff.mpr fun other listed same =>
        active ((of_decide_eq_true same).mp (front other listed))
    have kept : (List.range' probeSplit (probeCount - probeSplit)).filter
        (fun other => decide (other < probeSplit ↔ index < gallerySplit)) = _ :=
      List.filter_eq_self.mpr fun other listed =>
        decide_eq_true (iff_of_false (back other listed) active)
    rw [dropped, kept, List.nil_append, if_neg active]

lemma mem_partners {gallerySplit probeCount probeSplit index other : Nat} :
    other ∈ partners gallerySplit probeCount probeSplit index ↔
      other < probeCount ∧ (other < probeSplit ↔ index < gallerySplit) := by
  rw [partners, List.mem_filter, List.mem_range, decide_eq_true_iff]

/-- Row `index` after both calls. -/
lemma candidateRows_row {gallery probe : List FeatureRecord} {gallerySplit probeSplit : Nat}
    (valid : splitsAreValid gallery.length gallerySplit probe.length probeSplit = true)
    (firstHalfGate combinedGate : Nat) {index : Nat} {old : FeatureRecord}
    (record : gallery[index]? = some old) :
    (candidateRows gallery gallerySplit probe probeSplit firstHalfGate combinedGate)[index]? =
      some ((partners gallerySplit probe.length probeSplit index).foldl
        (CandidateRow.update ⟨0, 0, 0, 0, firstHalfGate, combinedGate⟩ old probe) .init) := by
  simp only [splitsAreValid, Bool.and_eq_true, decide_eq_true_iff] at valid
  obtain ⟨⟨⟨fewGallery, fewProbe⟩, gallerySplit_le⟩, probeSplit_le⟩ := valid
  have inside : index < gallery.length := (List.getElem?_eq_some_iff.mp record).1
  have start : (List.replicate gallery.length CandidateRow.init)[index]? = some .init := by
    rw [List.getElem?_replicate, if_pos inside]
  unfold candidateRows
  have first := @updateCandidates_row ⟨0, gallerySplit, 0, probeSplit, firstHalfGate, combinedGate⟩
    old probe gallery _ _ index ⟨Nat.zero_le _, Nat.zero_le _, probeSplit_le.trans fewProbe⟩ record
    start
  rw [updateCandidates_row ⟨gallerySplit_le, probeSplit_le, fewProbe⟩ record first,
    partners_eq probeSplit_le]
  by_cases active : index < gallerySplit
  · rw [if_neg fun both => not_lt.mpr both.1 active, if_pos ⟨Nat.zero_le _, active⟩, if_pos active]
    rfl
  · rw [if_pos ⟨not_lt.mp active, inside⟩, if_neg fun both => active both.2, if_neg active]
    rfl

section Search

variable {gallery probe : List FeatureRecord} {gallerySplit probeSplit : Nat}

lemma distanceTo_le {firstHalfGate combinedGate index distance : Nat} {old : FeatureRecord}
    (near : distanceTo firstHalfGate combinedGate old probe index = some distance) :
    distance ≤ combinedGate + 64 := by
  obtain ⟨new, -, passes⟩ := Option.bind_eq_some_iff.mp near
  exact nearestDistance_le passes

lemma distanceAt_init (index : Nat) : CandidateRow.init.distanceAt index = 0xff := by
  rw [CandidateRow.distanceAt, CandidateRow.init, Vector.toList_replicate,
    List.getD_eq_getElem?_getD, List.getElem?_replicate]
  split
  · rfl
  · rfl

lemma gatedEntries_near {firstHalfGate combinedGate : Nat} (small : combinedGate < 128)
    (old : FeatureRecord) (indices : List Nat) :
    ∀ entry ∈ gatedEntries firstHalfGate combinedGate old probe indices,
      entry.1 < 192 ∧ entry.2 ∈ indices := by
  intro entry listed
  obtain ⟨index, among, found⟩ := List.mem_filterMap.mp listed
  obtain ⟨distance, near, rfl⟩ := Option.map_eq_some_iff.mp found
  have bound := distanceTo_le near
  exact ⟨by omega, among⟩

lemma gatedEntries_nodup {firstHalfGate combinedGate : Nat} (old : FeatureRecord)
    {indices : List Nat} (different : indices.Nodup) :
    (gatedEntries firstHalfGate combinedGate old probe indices).Nodup := by
  refine List.Nodup.filterMap (fun index other entry one two => ?_) different
  obtain ⟨distance, -, rfl⟩ := Option.map_eq_some_iff.mp one
  obtain ⟨distance', -, same⟩ := Option.map_eq_some_iff.mp two
  exact (Prod.mk.inj same).2.symm

lemma partners_nodup (probeCount index : Nat) :
    (partners gallerySplit probeCount probeSplit index).Nodup :=
  List.nodup_range.filter _

/-- The row of a gallery record holds the two nearest of the probe records of its class, in either
polarity and within the gates, the best one as the first that is as near. Its bytes are the
distances themselves, and no pair that is returned crosses the split. -/
theorem candidate_search_exact {firstHalfGate combinedGate : Nat}
    (valid : splitsAreValid gallery.length gallerySplit probe.length probeSplit = true)
    (small : combinedGate < 128) :
    (∀ index old, gallery[index]? = some old → ∃ row,
      (candidateRows gallery gallerySplit probe probeSplit firstHalfGate combinedGate)[index]? =
        some row ∧
      TwoNearest (gatedEntries firstHalfGate combinedGate old probe
        (partners gallerySplit probe.length probeSplit index)) row.candidate ∧
      ∀ other, (row.distanceAt other).toNat =
        if other ∈ partners gallerySplit probe.length probeSplit index then
          (distanceTo firstHalfGate combinedGate old probe other).getD 0xff
        else 0xff) ∧
    ∀ pair ∈ ordinaryCorrespondencesWithGates gallery gallerySplit probe probeSplit firstHalfGate
        combinedGate, pair.oldIndex < gallerySplit ↔ pair.newIndex < probeSplit := by
  have scanned : ∀ index old, gallery[index]? = some old →
      TwoNearest (gatedEntries firstHalfGate combinedGate old probe
        (partners gallerySplit probe.length probeSplit index))
        ((partners gallerySplit probe.length probeSplit index).foldl
          (CandidateRow.update ⟨0, 0, 0, 0, firstHalfGate, combinedGate⟩ old probe)
          .init).candidate := by
    intro index old record
    rw [candidate_scan]
    exact twoNearest_foldl _ (gatedEntries_nodup old (partners_nodup _ _)) fun entry listed =>
      (gatedEntries_near small old _ entry listed).1
  constructor
  · intro index old record
    refine ⟨_, candidateRows_row valid firstHalfGate combinedGate record, scanned index old record,
      fun other => ?_⟩
    simp only [splitsAreValid, Bool.and_eq_true, decide_eq_true_iff] at valid
    have inside : ∀ other ∈ partners gallerySplit probe.length probeSplit index,
        other < matchMatrixStride := fun other listed =>
      (mem_partners.mp listed).1.trans_le valid.1.1.2
    rw [distanceAt_scan inside, distanceAt_init]
    split
    · cases near : distanceTo firstHalfGate combinedGate old probe other with
      | none => rfl
      | some distance =>
        have bound := distanceTo_le near
        exact UInt8.toNat_ofNat_of_lt' (show distance < 256 by omega)
    · rfl
  · intro pair listed
    obtain ⟨row, found, best⟩ := row_of_pair listed
    have below := (mem_ordinaryCorrespondencesWithGates listed).1
    have record := List.getElem?_eq_getElem below
    have same := candidateRows_row valid firstHalfGate combinedGate record
    rw [found] at same
    have two := scanned pair.oldIndex _ record
    rw [← Option.some.inj same] at two
    have first := two.1
    rw [best] at first
    have among := (gatedEntries_near small _ _ _ first.mem).2
    exact (mem_partners.mp among).2.symm

/-- Three probe records, of which the last one is in the other class. -/
def nearSpots : List FeatureRecord :=
  [spotRecord 0 1 0 0, spotRecord 0 0 0 0, spotRecord 0 0 0 0]

theorem candidate_search_exact_spots :
    ∃ row, (candidateRows [spotRecord 0 0 0 0] 1 nearSpots 2 23 47)[0]? = some row ∧
      TwoNearest [(1, 0), (0, 1)] row.candidate := by
  obtain ⟨rows, -⟩ := @candidate_search_exact [spotRecord 0 0 0 0] nearSpots 1 2 23 47 (by decide)
    (by decide)
  obtain ⟨row, found, two, -⟩ := rows 0 _ rfl
  have entries : gatedEntries 23 47 (spotRecord 0 0 0 0) nearSpots (partners 1 3 2 0) =
      [(1, 0), (0, 1)] := by
    decide +kernel
  exact ⟨row, found, entries ▸ two⟩

end Search

end GoodixSpi.Chicago
