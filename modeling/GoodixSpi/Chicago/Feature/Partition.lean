import GoodixSpi.Chicago.Feature.Subtemplate
import Mathlib.Data.List.GetD
import Mathlib.Logic.Equiv.Basic

/-! What the partition leaves: the records and the annotations moved by one permutation, with the
active records in front. -/

namespace GoodixSpi.Chicago

/-- Records and annotations after the same moves within the first `count` places. -/
structure MovedTogether (count : ℕ) (records out : List FeatureRecord)
    (annotations outAnnotations : List UInt8) (places : Equiv.Perm ℕ) : Prop where
  length : out.length = records.length
  within : ∀ i, count ≤ i → places i = i
  records : ∀ i : ℕ, out[i]? = records[places i]?
  annotations : ∀ i : ℕ, outAnnotations[i]? = annotations[places i]?

lemma getElem?_swapAt {α : Type} {items : List α} {i j : ℕ}
    (inside : i < items.length ∧ j < items.length ∨ items = []) (k : ℕ) :
    (Described.swapAt items i j)[k]? = items[Equiv.swap i j k]? := by
  rcases inside with ⟨hi, hj⟩ | rfl
  · rcases eq_or_ne k i with rfl | nei
    · rw [Equiv.swap_apply_left, Described.getElem?_swapAt_left hi hj]
    rcases eq_or_ne k j with rfl | nej
    · rw [Equiv.swap_apply_right, Described.getElem?_swapAt_right hi hj]
    · rw [Equiv.swap_apply_of_ne_of_ne nei nej, Described.getElem?_swapAt_of_ne hi hj nei nej]
  · rfl

lemma MovedTogether.refl (count : ℕ) (records : List FeatureRecord) (annotations : List UInt8) :
    MovedTogether count records records annotations annotations (Equiv.refl ℕ) where
  length := rfl
  within _ _ := rfl
  records _ := rfl
  annotations _ := rfl

/-- A swap before other moves. -/
lemma MovedTogether.swapAt {count : ℕ} {records out : List FeatureRecord}
    {annotations outAnnotations : List UInt8} {places : Equiv.Perm ℕ} {i j : ℕ}
    (moved : MovedTogether count (Described.swapAt records i j) out
      (Described.swapAt annotations i j) outAnnotations places) (hi : i < count) (hj : j < count)
    (inRecords : i < records.length ∧ j < records.length ∨ records = [])
    (inAnnotations : i < annotations.length ∧ j < annotations.length ∨ annotations = []) :
    MovedTogether count records out annotations outAnnotations
      (places.trans (Equiv.swap i j)) where
  length := moved.length.trans (Described.length_swapAt _ _ _)
  within k outside := by
    rw [Equiv.trans_apply, moved.within k outside]
    exact Equiv.swap_apply_of_ne_of_ne (by omega) (by omega)
  records k := (moved.records k).trans (getElem?_swapAt inRecords _)
  annotations k := (moved.annotations k).trans (getElem?_swapAt inAnnotations _)

lemma advanceLow_passes (records : List FeatureRecord) (low high : ℕ) {i : ℕ} (from_low : low ≤ i)
    (passed : i < advanceLow records low high) :
    (records.getD i FeatureRecord.zero).polarity = 0 := by
  fun_induction advanceLow records low high with
  | case1 low step ih =>
    rcases Nat.eq_or_lt_of_le from_low with rfl | later
    · exact step.2
    · exact ih later passed
  | case2 low stuck => omega

lemma retreatHigh_passes (records : List FeatureRecord) (low high : ℕ) {i : ℕ} (below : i < high)
    (passed : retreatHigh records low high ≤ i) :
    (records.getD i FeatureRecord.zero).polarity = 1 := by
  fun_induction retreatHigh records low high with
  | case1 high step ih =>
    rcases Nat.eq_or_lt_of_le (Nat.le_sub_one_of_lt below) with rfl | earlier
    · exact step.2
    · exact ih earlier passed
  | case2 high stuck => omega

/-- The places below `low` hold active records, those from `high` on inactive ones. -/
structure Sorted (records : List FeatureRecord) (count low high : ℕ) : Prop where
  active : ∀ i < low, (records.getD i FeatureRecord.zero).polarity = 0
  inactive : ∀ i, high ≤ i → i < count → (records.getD i FeatureRecord.zero).polarity = 1

lemma Sorted.scan {records : List FeatureRecord} {count low high : ℕ}
    (sorted : Sorted records count low high) :
    Sorted records count (advanceLow records low high)
      (retreatHigh records (advanceLow records low high) high) where
  active i inside := by
    by_cases early : i < low
    · exact sorted.active i early
    · exact advanceLow_passes records low high (Nat.not_lt.mp early) inside
  inactive i outside inside := by
    by_cases late : high ≤ i
    · exact sorted.inactive i late inside
    · exact retreatHigh_passes records _ high (Nat.not_le.mp late) outside

lemma Sorted.swapAt {records : List FeatureRecord} {count low high : ℕ}
    (sorted : Sorted records count low high) (apart : low < high) (within : high ≤ count)
    (fits : count ≤ records.length) :
    Sorted (Described.swapAt records low (high - 1)) count low high where
  active i inside := by
    rw [getD_swapAt records (by omega) (by omega), if_neg (by omega), if_neg (by omega)]
    exact sorted.active i inside
  inactive i outside inside := by
    rw [getD_swapAt records (by omega) (by omega), if_neg (by omega), if_neg (by omega)]
    exact sorted.inactive i outside inside

/-- What every run of the loop leaves that ends. -/
lemma partitionLoop_leaves {fuel count : ℕ} {records out : List FeatureRecord}
    {annotations outAnnotations : List UInt8} {low high k : ℕ} (ordered : low ≤ high)
    (within : high ≤ count) (fits : count ≤ records.length)
    (beside : count ≤ annotations.length ∨ annotations = [])
    (sorted : Sorted records count low high)
    (run : partitionLoop fuel records annotations low high = some (out, outAnnotations, k)) :
    (∃ places, MovedTogether count records out annotations outAnnotations places) ∧
      k ≤ count ∧ Sorted out count k k := by
  induction fuel generalizing records annotations low high with
  | zero => cases run
  | succ fuel ih =>
    have scanned := sorted.scan
    have front := advanceLow_le records ordered
    have back := retreatHigh_le records front.2
    unfold partitionLoop at run
    split at run
    · dsimp only at run
      -- Where the two scans stop.
      generalize advanceLow records low high = scanLow at *
      generalize retreatHigh records scanLow high = scanHigh at *
      split at run
      · rename_i met
        have meet : scanHigh = scanLow := by omega
        rw [meet] at scanned
        cases run
        exact ⟨⟨_, .refl _ _ _⟩, by omega, scanned⟩
      · rename_i apart
        have inRecords : scanLow < records.length ∧ scanHigh - 1 < records.length := by omega
        have inAnnotations : (scanLow < annotations.length ∧ scanHigh - 1 < annotations.length) ∨
            annotations = [] := beside.imp_left fun fitsToo => by omega
        have besideStill : count ≤ (Described.swapAt annotations scanLow (scanHigh - 1)).length ∨
            Described.swapAt annotations scanLow (scanHigh - 1) = [] := by
          rcases beside with fitsToo | rfl
          · left
            rwa [Described.length_swapAt]
          · right
            rfl
        obtain ⟨⟨places, moved⟩, rest⟩ := ih back.1 (back.2.trans within)
          (by rwa [Described.length_swapAt]) besideStill
          (scanned.swapAt (by omega) (by omega) fits) run
        exact ⟨⟨_, moved.swapAt (by omega) (by omega) (.inl inRecords) inAnnotations⟩, rest⟩
    · have meet : high = low := by omega
      rw [meet] at sorted
      cases run
      exact ⟨⟨_, .refl _ _ _⟩, by omega, sorted⟩

/-- More rounds than are needed change nothing. -/
lemma partitionLoop_succ {fuel : ℕ} {records : List FeatureRecord} {annotations : List UInt8}
    {low high : ℕ} {result : List FeatureRecord × List UInt8 × ℕ}
    (run : partitionLoop fuel records annotations low high = some result) :
    partitionLoop (fuel + 1) records annotations low high = some result := by
  induction fuel generalizing records annotations low high with
  | zero => cases run
  | succ fuel ih =>
    unfold partitionLoop at run ⊢
    split at run
    · rename_i inside
      rw [if_pos inside]
      dsimp only at run ⊢
      split at run
      · rename_i met
        rw [if_pos met]
        exact run
      · rename_i apart
        rw [if_neg apart]
        exact ih run
    · rename_i outside
      rw [if_neg outside]
      exact run

lemma partitionLoop_le {fuel more : ℕ} {records : List FeatureRecord} {annotations : List UInt8}
    {low high : ℕ} {result : List FeatureRecord × List UInt8 × ℕ} (enough : fuel ≤ more)
    (run : partitionLoop fuel records annotations low high = some result) :
    partitionLoop more records annotations low high = some result := by
  induction more, enough using Nat.le_induction with
  | base => exact run
  | succ more _ ih => exact partitionLoop_succ ih

lemma twoKinds_of_forall {records : List FeatureRecord}
    (two : ∀ record ∈ records, record.polarity = 0 ∨ record.polarity = 1) :
    TwoKinds records records.length := by
  intro i inside
  rw [List.getD_eq_getElem _ _ inside]
  exact two _ (List.getElem_mem inside)

/-- Records that are active or inactive are partitioned within a bounded number of rounds: they and
their annotations, if there are any, are moved by the same permutation, and the result divides the
active records in front from the inactive ones behind. -/
theorem partition_records_correct {records : List FeatureRecord} {annotations : List UInt8}
    (two : ∀ record ∈ records, record.polarity = 0 ∨ record.polarity = 1)
    (beside : annotations.length = records.length ∨ annotations = []) :
    ∃ out outAnnotations k,
      (∀ fuel, records.length + 2 ≤ fuel →
        partitionRecords fuel records annotations records.length =
          some (out, outAnnotations, k)) ∧
      (∃ places : Equiv.Perm ℕ, (∀ i, records.length ≤ i → places i = i) ∧
        (∀ i : ℕ, out[i]? = records[places i]?) ∧
        ∀ i : ℕ, outAnnotations[i]? = annotations[places i]?) ∧
      out.length = records.length ∧ k ≤ records.length ∧
      (∀ record ∈ out.take k, record.polarity = 0) ∧
      ∀ record ∈ out.drop k, record.polarity = 1 := by
  have ends := partitionRecords_ends annotations le_rfl (twoKinds_of_forall two)
  obtain ⟨⟨out, outAnnotations, k⟩, run⟩ := Option.isSome_iff_exists.mp ends
  have start : Sorted records records.length 0 records.length :=
    ⟨fun i early => absurd early (Nat.not_lt_zero i), fun i late inside => absurd inside (by omega)⟩
  obtain ⟨⟨places, moved⟩, small, sorted⟩ := partitionLoop_leaves (Nat.zero_le _) le_rfl le_rfl
    (beside.imp_left Eq.ge) start run
  have length := moved.length
  refine ⟨out, outAnnotations, k, fun fuel enough => partitionLoop_le enough run,
    ⟨places, moved.within, moved.records, moved.annotations⟩, length, small, ?_, ?_⟩
  · intro record mem
    obtain ⟨i, inside, rfl⟩ := List.mem_take_iff_getElem.mp mem
    have active := sorted.active i (by omega)
    rwa [List.getD_eq_getElem _ _ (by omega)] at active
  · intro record mem
    obtain ⟨i, inside, rfl⟩ := List.mem_drop_iff_getElem.mp mem
    have inactive := sorted.inactive (k + i) (by omega) (by omega)
    rwa [List.getD_eq_getElem _ _ (by omega)] at inactive

/-- A record whose first byte has the given low bits. -/
def flagged (foreground : UInt16) : FeatureRecord := { FeatureRecord.zero with foreground }

/-- An inactive, an active and an inactive record, with their annotations. -/
theorem partition_three_records :
    ∃ out outAnnotations k,
      (∀ fuel, 5 ≤ fuel → partitionRecords fuel [flagged 1, flagged 0, flagged 5] [7, 8, 9] 3 =
        some (out, outAnnotations, k)) ∧
      (∃ places : Equiv.Perm ℕ, (∀ i, 3 ≤ i → places i = i) ∧
        (∀ i : ℕ, out[i]? = [flagged 1, flagged 0, flagged 5][places i]?) ∧
        ∀ i : ℕ, outAnnotations[i]? = [7, 8, 9][places i]?) ∧
      out.length = 3 ∧ k ≤ 3 ∧ (∀ record ∈ out.take k, record.polarity = 0) ∧
      ∀ record ∈ out.drop k, record.polarity = 1 :=
  @partition_records_correct [flagged 1, flagged 0, flagged 5] [7, 8, 9] (by decide) (.inl rfl)

end GoodixSpi.Chicago
