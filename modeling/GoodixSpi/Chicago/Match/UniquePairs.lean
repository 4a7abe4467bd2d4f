import GoodixSpi.Chicago.Feature.SpatialUniqueness
import GoodixSpi.Chicago.Match.Candidates
import Mathlib.Data.List.Induction

/-! The pairs of both correspondence searches. Each old record contributes one pair at most. The
new records of the pairs stay apart as long as no old record's candidate crowds another entry. -/

namespace GoodixSpi.Chicago

/-- At least 0x100 coordinate units apart. -/
def Apart (newRecords : List FeatureRecord) (p q : Correspondence) : Prop :=
  ∀ a b, newRecords[p.newIndex]? = some a → newRecords[q.newIndex]? = some b →
    0x10000 ≤ squaredDistance a b

/-- Distinct old records, and new records that are pairwise apart. -/
def UniquePairs (newRecords : List FeatureRecord) (pairs : List Correspondence) : Prop :=
  (pairs.map Correspondence.oldIndex).Nodup ∧ pairs.Pairwise (Apart newRecords)

def Selected.pair (selected : Selected) : Correspondence := ⟨selected.oldIndex, selected.newIndex⟩

/-- The list after the candidates of some old records, in order. -/
def selectedAfter (limit : Nat) (newRecords : List FeatureRecord)
    (candidates : List (Option Selected)) : List Selected :=
  (candidates.filterMap id).foldl (selectCandidate limit newRecords) []

variable {newRecords : List FeatureRecord} {limit : Nat} {candidates : List (Option Selected)}

lemma nearSelected_eq_false {a b : Selected} :
    nearSelected newRecords a b = false ↔ Apart newRecords a.pair b.pair := by
  unfold nearSelected Apart
  constructor
  · intro far x y here there
    have here : newRecords[a.newIndex]? = some x := here
    have there : newRecords[b.newIndex]? = some y := there
    rw [here, there] at far
    exact not_lt.mp (of_decide_eq_false far)
  · intro apart
    cases here : newRecords[a.newIndex]? with
    | none => rfl
    | some x =>
      cases there : newRecords[b.newIndex]? with
      | none => rfl
      | some y => exact decide_eq_false (not_lt.mpr (apart x y here there))

lemma uniquePairs_iff {selected : List Selected} :
    UniquePairs newRecords (selected.map Selected.pair) ↔
      (selected.map Selected.oldIndex).Nodup ∧ Spaced newRecords selected := by
  rw [UniquePairs, List.map_map, List.pairwise_map, Spaced]
  refine and_congr_right fun _ => ?_
  simp only [nearSelected_eq_false]

lemma selectedAfter_concat (candidates : List (Option Selected)) (candidate : Option Selected) :
    selectedAfter limit newRecords (candidates ++ [candidate]) =
      candidate.elim (selectedAfter limit newRecords candidates)
        (selectCandidate limit newRecords (selectedAfter limit newRecords candidates)) := by
  unfold selectedAfter
  rw [List.filterMap_append, List.foldl_append]
  cases candidate <;> rfl

/-- Each old record is used once, whatever the list throws out. -/
lemma selectedAfter_oldIndex
    (numbered : ∀ (n : Nat) (candidate : Selected), candidates[n]? = some (some candidate) →
      candidate.oldIndex = n) :
    (∀ entry ∈ selectedAfter limit newRecords candidates, entry.oldIndex < candidates.length) ∧
      ((selectedAfter limit newRecords candidates).map Selected.oldIndex).Nodup := by
  induction candidates using List.reverseRecOn with
  | nil => exact ⟨fun _ listed => absurd listed List.not_mem_nil, List.nodup_nil⟩
  | append_singleton candidates last ih =>
    obtain ⟨below, distinct⟩ := ih fun n candidate found => numbered n candidate (by
      rw [List.getElem?_append_left (List.getElem?_eq_some_iff.mp found).1, found])
    rw [selectedAfter_concat, List.length_append, List.length_singleton]
    cases last with
    | none => exact ⟨fun entry listed => Nat.lt_succ_of_lt (below entry listed), distinct⟩
    | some candidate =>
      have own : candidate.oldIndex = candidates.length := numbered _ candidate (by simp)
      have sub := selectCandidate_subperm limit newRecords
        (selectedAfter limit newRecords candidates) candidate
      constructor
      · intro entry listed
        rcases List.mem_cons.mp (sub.subset listed) with rfl | earlier
        · omega
        · exact Nat.lt_succ_of_lt (below entry earlier)
      · have together : ((candidate :: selectedAfter limit newRecords candidates).map
            Selected.oldIndex).Nodup := by
          refine List.nodup_cons.mpr ⟨fun listed => ?_, distinct⟩
          obtain ⟨entry, earlier, same⟩ := List.mem_map.mp listed
          have bound := below entry earlier
          omega
        obtain ⟨sorted, perm, sublist⟩ := sub
        exact ((perm.map Selected.oldIndex).nodup_iff).mp
          (together.sublist (sublist.map Selected.oldIndex))

/-- After every old record the entries are apart, exactly if no candidate ever crowds one. -/
lemma selectedAfter_spaced_iff :
    (∀ n, Spaced newRecords (selectedAfter limit newRecords (candidates.take n))) ↔
      ∀ n candidate, candidates[n]? = some (some candidate) →
        crowds newRecords candidate (selectedAfter limit newRecords (candidates.take n)) =
          false := by
  have step : ∀ n candidate, candidates[n]? = some candidate →
      selectedAfter limit newRecords (candidates.take (n + 1)) =
        candidate.elim (selectedAfter limit newRecords (candidates.take n))
          (selectCandidate limit newRecords (selectedAfter limit newRecords (candidates.take n))) := by
    intro n candidate found
    rw [List.take_add_one, found, Option.toList_some, selectedAfter_concat]
  constructor
  · intro spaced n candidate found
    have next := spaced (n + 1)
    rw [step n _ found] at next
    exact (selectCandidate_spaced limit (spaced n)).mp next
  · intro clear n
    induction n with
    | zero => exact List.Pairwise.nil
    | succ n ih =>
      cases found : candidates[n]? with
      | none =>
        have full := List.getElem?_eq_none_iff.mp found
        rwa [List.take_of_length_le (by omega), ← List.take_of_length_le full]
      | some candidate =>
        rw [step n candidate found]
        cases candidate with
        | none => exact ih
        | some candidate => exact (selectCandidate_spaced limit ih).mpr (clear n candidate found)

/-! ### The two searches -/

/-- The candidate of each old record, if it passes the ratio test. -/
def correspondenceCandidates (oldRecords newRecords : List FeatureRecord) :
    List (Option Selected) :=
  oldRecords.zipIdx.map fun entry => (closestRecords entry.1 newRecords).candidate entry.2

/-- The candidates of `goodix_chicago_match_select_candidates` that pass. -/
def acceptedCandidates (candidates : List MatchCandidate) (bestMultiplier secondMultiplier : Nat) :
    List (Option Selected) :=
  candidates.zipIdx.map fun entry => entry.1.selected bestMultiplier secondMultiplier entry.2

lemma map_zipIdx_take {α β : Type} (f : α × Nat → β) (l : List α) (n : Nat) :
    (l.take n).zipIdx.map f = (l.zipIdx.map f).take n := by
  apply List.ext_getElem?
  intro i
  by_cases inside : i < n
  · simp [inside]
  · simp [inside]

lemma findCorrespondences_eq (oldRecords newRecords : List FeatureRecord) :
    findCorrespondences oldRecords newRecords =
      (selectedAfter correspondenceLimit newRecords
        (correspondenceCandidates oldRecords newRecords)).map Selected.pair := by
  rw [selectedAfter, correspondenceCandidates, List.filterMap_map]
  rfl

lemma selectCandidates_eq (newRecords : List FeatureRecord) (candidates : List MatchCandidate)
    (limit bestMultiplier secondMultiplier : Nat) :
    selectCandidates newRecords candidates limit bestMultiplier secondMultiplier =
      (selectedAfter limit newRecords
        (acceptedCandidates candidates bestMultiplier secondMultiplier)).map Selected.pair := by
  rw [selectedAfter, acceptedCandidates, List.filterMap_map]
  unfold selectCandidates
  split
  · rename_i none
    subst none
    symm
    rw [List.map_eq_nil_iff]
    exact List.length_eq_zero_iff.mp (Nat.le_zero.mp
      (length_foldl_selectCandidate 0 newRecords _ [] (Nat.le_refl 0)))
  · rfl

lemma candidate_oldIndex {closest : ClosestTwo} {n : Nat} {candidate : Selected}
    (passes : closest.candidate n = some candidate) : candidate.oldIndex = n := by
  unfold ClosestTwo.candidate at passes
  split at passes
  · cases passes
  · split at passes
    · cases passes
    · cases passes
      rfl

lemma selected_oldIndex {entry : MatchCandidate} {bestMultiplier secondMultiplier n : Nat}
    {candidate : Selected}
    (passes : entry.selected bestMultiplier secondMultiplier n = some candidate) :
    candidate.oldIndex = n := by
  unfold MatchCandidate.selected at passes
  split at passes
  · cases passes
  · split at passes
    · cases passes
    · cases passes
      rfl

/-- With numbered candidates the pairs are unique after every old record exactly if no
candidate crowds an entry. -/
lemma pairs_unique_iff (numbered : ∀ (n : Nat) (candidate : Selected),
      candidates[n]? = some (some candidate) → candidate.oldIndex = n) :
    (∀ n, UniquePairs newRecords
        ((selectedAfter limit newRecords (candidates.take n)).map Selected.pair)) ↔
      ∀ n candidate, candidates[n]? = some (some candidate) →
        crowds newRecords candidate (selectedAfter limit newRecords (candidates.take n)) =
          false := by
  rw [← selectedAfter_spaced_iff]
  refine forall_congr' fun n => ?_
  have prefixed : ∀ (m : Nat) (candidate : Selected),
      (candidates.take n)[m]? = some (some candidate) → candidate.oldIndex = m := by
    intro m candidate found
    rw [List.getElem?_take] at found
    split at found
    · exact numbered m candidate found
    · cases found
  rw [uniquePairs_iff]
  exact and_iff_right (selectedAfter_oldIndex prefixed).2

/-- Both searches return distinct old records with new records pairwise apart, for a gallery and
whatever it begins with, exactly if no old record's candidate that replaces an entry leaves
another one near it. -/
theorem correspondences_unique_iff (newRecords : List FeatureRecord) :
    (∀ oldRecords : List FeatureRecord,
      (∀ n, UniquePairs newRecords (findCorrespondences (oldRecords.take n) newRecords)) ↔
        ∀ n candidate,
          (correspondenceCandidates oldRecords newRecords)[n]? = some (some candidate) →
          crowds newRecords candidate (selectedAfter correspondenceLimit newRecords
            ((correspondenceCandidates oldRecords newRecords).take n)) = false) ∧
    ∀ (candidates : List MatchCandidate) (limit bestMultiplier secondMultiplier : Nat),
      (∀ n, UniquePairs newRecords (selectCandidates newRecords (candidates.take n) limit
        bestMultiplier secondMultiplier)) ↔
        ∀ n candidate,
          (acceptedCandidates candidates bestMultiplier secondMultiplier)[n]? =
            some (some candidate) →
          crowds newRecords candidate (selectedAfter limit newRecords
            ((acceptedCandidates candidates bestMultiplier secondMultiplier).take n)) = false := by
  constructor
  · intro oldRecords
    rw [← pairs_unique_iff]
    · refine forall_congr' fun n => ?_
      rw [findCorrespondences_eq, correspondenceCandidates, map_zipIdx_take]
      rfl
    · intro n candidate found
      rw [correspondenceCandidates, List.getElem?_map, List.getElem?_zipIdx] at found
      obtain ⟨entry, here, passes⟩ := Option.map_eq_some_iff.mp found
      obtain ⟨record, -, rfl⟩ := Option.map_eq_some_iff.mp here
      exact (candidate_oldIndex passes).trans (Nat.zero_add n)
  · intro candidates limit bestMultiplier secondMultiplier
    rw [← pairs_unique_iff]
    · refine forall_congr' fun n => ?_
      rw [selectCandidates_eq, acceptedCandidates, map_zipIdx_take]
      rfl
    · intro n candidate found
      rw [acceptedCandidates, List.getElem?_map, List.getElem?_zipIdx] at found
      obtain ⟨entry, here, passes⟩ := Option.map_eq_some_iff.mp found
      obtain ⟨record, -, rfl⟩ := Option.map_eq_some_iff.mp here
      exact (selected_oldIndex passes).trans (Nat.zero_add n)

/-! ### A near pair that stays -/

/-- A record with two halves of a descriptor, and one byte of its own. -/
def spotRecord (x : Nat) (own first second : UInt8) : FeatureRecord where
  foreground := 0
  refinedX := Int16.ofNat x
  refinedY := 0
  orientation := 0
  strength := 0
  descriptor := Vector.ofFn fun i =>
    if i.val = 4 then own else if i.val < 16 then first else second

/-- The third lies between the other two. -/
def threeSpots : List FeatureRecord :=
  [spotRecord 0 0 0 0, spotRecord 0x190 0xff 0xff 0, spotRecord 0xd0 0 0 0xff]

/-- Copies of them, at distances 2, 0 and 1. -/
def threeCopies : List FeatureRecord :=
  [spotRecord 0 3 0 0, spotRecord 0x190 0xff 0xff 0, spotRecord 0xd0 1 0 0xff]

def threeCandidates : List MatchCandidate :=
  [⟨2, 96, some 0, none⟩, ⟨0, 96, some 1, none⟩, ⟨1, 96, some 2, none⟩]

lemma threeSpots_close : ¬UniquePairs threeSpots [⟨2, 2⟩, ⟨1, 1⟩] := by
  rintro ⟨-, apart⟩
  have pair := (List.pairwise_cons.mp apart).1 ⟨1, 1⟩ (List.mem_singleton_self _)
  have far := pair _ _ rfl rfl
  revert far
  decide

/-- The third candidate replaces the first entry and stays beside the second. -/
theorem third_candidate_stays_near :
    ¬UniquePairs threeSpots (findCorrespondences threeCopies threeSpots) ∧
      ¬UniquePairs threeSpots (selectCandidates threeSpots threeCandidates matchPairLimit 40 38) := by
  have found : findCorrespondences threeCopies threeSpots = [⟨2, 2⟩, ⟨1, 1⟩] := by decide +kernel
  have chosen : selectCandidates threeSpots threeCandidates matchPairLimit 40 38 =
      [⟨2, 2⟩, ⟨1, 1⟩] := by decide +kernel
  rw [found, chosen]
  exact ⟨threeSpots_close, threeSpots_close⟩

end GoodixSpi.Chicago
