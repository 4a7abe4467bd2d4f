import GoodixSpi.Chicago.Feature.SpatialSelection
import Mathlib.Data.List.Perm.Subperm
import Mathlib.Data.List.TakeWhile
import Mathlib.Tactic.Ring

/-! When the spatial filter keeps its entries apart. A candidate that takes the place of a worse
near entry goes on through the rest of the list, where it steps over near entries that are at
least as good, and over the last entry whenever that is moved into a freed place. -/

namespace GoodixSpi.Chicago

/-- The rest of the scan leaves an entry near the candidate that has already found a place. -/
def keepsNear (near : Selected → Bool) (candidate : Selected) : Nat → List Selected → Bool
  | 0, _ => false
  | _ + 1, [] => false
  | fuel + 1, existing :: rest =>
    if near existing = false then keepsNear near candidate fuel rest
    else if existing.bestDistance ≤ candidate.bestDistance then true
    else
      match rest.getLast? with
      | none => false
      | some last => near last || keepsNear near candidate fuel rest.dropLast

/-- The candidate takes the place of the first entry near it, and another near one stays. -/
def crowds (newRecords : List FeatureRecord) (candidate : Selected) (selected : List Selected) :
    Bool :=
  let near := nearSelected newRecords candidate
  match selected.dropWhile fun existing => !near existing with
  | [] => false
  | first :: rest =>
    decide (candidate.bestDistance < first.bestDistance) &&
      keepsNear near candidate rest.length rest

section Scan

variable {near : Selected → Bool} {candidate : Selected}

/-- Entries far from the candidate are stepped over. -/
lemma scanSelected_far (far rest before : List Selected) (fuel : Nat) (replaced : Bool)
    (apart : ∀ existing ∈ far, near existing = false) :
    scanSelected near candidate (far.length + fuel) replaced before (far ++ rest) =
      scanSelected near candidate fuel replaced (before ++ far) rest := by
  induction far generalizing before with
  | nil => simp
  | cons existing far ih =>
    have here := apart existing List.mem_cons_self
    have later : ∀ entry ∈ far, near entry = false :=
      fun entry listed => apart entry (List.mem_cons_of_mem existing listed)
    rw [List.length_cons, Nat.add_right_comm, List.cons_append, scanSelected, if_pos here,
      ih (before ++ [existing]) later, List.append_assoc, List.singleton_append]

/-- Once the candidate has a place, the scan keeps some of the other entries. -/
lemma scanSelected_replaced (fuel : Nat) (before rest : List Selected)
    (enough : rest.length ≤ fuel) :
    ∃ kept, scanSelected near candidate fuel true before rest = some (true, before ++ kept) ∧
      kept.Subperm rest ∧
      ((∃ existing ∈ kept, near existing = true) ↔ keepsNear near candidate fuel rest = true) := by
  induction fuel generalizing before rest with
  | zero =>
    obtain rfl := List.length_eq_zero_iff.mp (Nat.le_zero.mp enough)
    exact ⟨[], rfl, .refl _, by simp [keepsNear]⟩
  | succ fuel ih =>
    cases rest with
    | nil => exact ⟨[], by simp [scanSelected], .refl _, by simp [keepsNear]⟩
    | cons existing rest =>
      have shorter : rest.length ≤ fuel := Nat.le_of_succ_le_succ enough
      rw [scanSelected, keepsNear]
      by_cases far : near existing = false
      · obtain ⟨kept, run, sub, crowded⟩ := ih (before ++ [existing]) rest shorter
        refine ⟨existing :: kept, ?_, (List.subperm_cons existing).mpr sub, ?_⟩
        · rw [if_pos far, run, List.append_assoc, List.singleton_append]
        · rw [if_pos far, ← crowded]
          simp [far]
      · have close : near existing = true := by simpa using far
        rw [if_neg far, if_neg far]
        by_cases better : existing.bestDistance ≤ candidate.bestDistance
        · obtain ⟨kept, run, sub, -⟩ := ih (before ++ [existing]) rest shorter
          refine ⟨existing :: kept, ?_, (List.subperm_cons existing).mpr sub, ?_⟩
          · rw [if_pos better, if_pos rfl, run, List.append_assoc, List.singleton_append]
          · rw [if_pos better]
            exact ⟨fun _ => rfl, fun _ => ⟨existing, List.mem_cons_self, close⟩⟩
        · rw [if_neg better, if_neg better, if_neg Bool.true_eq_false.mp]
          cases found : rest.getLast? with
          | none =>
            obtain rfl := List.getLast?_eq_none_iff.mp found
            obtain ⟨kept, run, sub, -⟩ := ih before [] (Nat.zero_le fuel)
            obtain rfl := List.subperm_nil.mp sub
            exact ⟨[], run, List.nil_subperm, by simp⟩
          | some last =>
            obtain ⟨earlier, split⟩ := List.getLast?_eq_some_iff.mp found
            have dropped : rest.dropLast = earlier := by rw [split, List.dropLast_concat]
            have fewer : earlier.length ≤ fuel := by
              rw [split, List.length_append] at shorter
              omega
            obtain ⟨kept, run, sub, crowded⟩ := ih (before ++ [last]) earlier fewer
            refine ⟨last :: kept, ?_, ?_, ?_⟩
            · rw [dropped]
              show scanSelected near candidate fuel true (before ++ [last]) earlier = _
              rw [run, List.append_assoc, List.singleton_append]
            · have moved : (last :: earlier).Perm rest := by
                rw [split]
                exact (List.perm_append_singleton last earlier).symm
              exact (((List.subperm_cons last).mpr sub).trans moved.subperm).cons_right existing
            · rw [dropped]
              show _ ↔ (near last || keepsNear near candidate fuel earlier) = true
              rw [Bool.or_eq_true, ← crowded]
              simp

end Scan

section Step

variable {newRecords : List FeatureRecord} {limit : Nat} {candidate : Selected}
  {selected : List Selected}

/-- What a candidate does to the list. -/
inductive Considered (newRecords : List FeatureRecord) (candidate : Selected)
    (selected : List Selected) : List Selected → Prop
  | rejected (clear : crowds newRecords candidate selected = false) :
      Considered newRecords candidate selected selected
  | alone {updated : List Selected}
      (far : ∀ existing ∈ selected, nearSelected newRecords candidate existing = false)
      (clear : crowds newRecords candidate selected = false)
      (sub : updated.Subperm (candidate :: selected)) : Considered newRecords candidate selected updated
  | placed {far rest kept : List Selected} {first : Selected}
      (split : selected = far ++ first :: rest)
      (apart : ∀ existing ∈ far, nearSelected newRecords candidate existing = false)
      (sub : kept.Subperm rest)
      (crowded : (∃ existing ∈ kept, nearSelected newRecords candidate existing = true) ↔
        crowds newRecords candidate selected = true) :
      Considered newRecords candidate selected (far ++ candidate :: kept)

lemma replaceWorst_subperm (selected : List Selected) (candidate : Selected) :
    (replaceWorst selected candidate).Subperm (candidate :: selected) := by
  unfold replaceWorst
  split
  · exact .cons_self
  · rename_i worst found
    split
    · obtain ⟨inside, -⟩ := List.getElem?_eq_some_iff.mp found
      rw [List.set_eq_take_append_cons_drop, if_pos inside]
      refine (List.perm_middle.subperm).trans ((List.subperm_cons candidate).mpr ?_)
      refine List.Sublist.subperm ?_
      have split := List.take_append_drop (worstIndex selected) selected
      conv_rhs => rw [← split]
      refine (List.Sublist.refl _).append ?_
      exact List.drop_sublist_drop_left selected (Nat.le_succ _)
    · exact .cons_self

lemma selectCandidate_considered (limit : Nat) (newRecords : List FeatureRecord)
    (selected : List Selected) (candidate : Selected) :
    Considered newRecords candidate selected
      (selectCandidate limit newRecords selected candidate) := by
  set near := nearSelected newRecords candidate with nearness
  have crowding : ∀ far rest : List Selected, ∀ first, selected = far ++ first :: rest →
      (∀ existing ∈ far, near existing = false) → near first = true →
      crowds newRecords candidate selected =
        (decide (candidate.bestDistance < first.bestDistance) &&
          keepsNear near candidate rest.length rest) := by
    rintro far rest first rfl apart close
    have skip : (far ++ first :: rest).dropWhile (fun existing => !near existing) =
        first :: rest := by
      rw [List.dropWhile_append_of_pos (by simpa using apart), List.dropWhile_cons_of_neg
        (by simp [close])]
    simp only [crowds, ← nearness, skip]
  by_cases close : ∃ existing ∈ selected, near existing = true
  · obtain ⟨first, far, rest, split, apart, close⟩ :
        ∃ first far rest, selected = far ++ first :: rest ∧
          (∀ existing ∈ far, near existing = false) ∧ near first = true := by
      obtain ⟨first, found⟩ := Option.isSome_iff_exists.mp (List.find?_isSome.mpr close)
      obtain ⟨here, far, rest, split, apart⟩ := List.find?_eq_some_iff_append.mp found
      exact ⟨first, far, rest, split, by simpa using apart, here⟩
    have measure : selected.length = far.length + (rest.length + 1) := by rw [split]; simp
    have run : scanSelected near candidate selected.length false [] selected =
        scanSelected near candidate (rest.length + 1) false far (first :: rest) := by
      rw [measure, split, scanSelected_far far _ _ _ _ apart, List.nil_append]
    have crowd := crowding far rest first split apart close
    unfold selectCandidate
    rw [← nearness, run, scanSelected, if_neg (by simp [close])]
    by_cases better : first.bestDistance ≤ candidate.bestDistance
    · rw [if_pos better, if_neg Bool.false_ne_true]
      refine .rejected ?_
      rw [crowd, decide_eq_false (Nat.not_lt.mpr better), Bool.false_and]
    · obtain ⟨kept, replaced, sub, crowded⟩ :=
        @scanSelected_replaced near candidate rest.length (far ++ [candidate]) rest le_rfl
      rw [if_neg better, if_pos rfl, replaced]
      show Considered newRecords candidate selected (far ++ [candidate] ++ kept)
      rw [List.append_assoc, List.singleton_append]
      refine .placed split apart sub ?_
      rw [crowded, crowd, decide_eq_true (Nat.not_le.mp better), Bool.true_and]
  · have far : ∀ existing ∈ selected, near existing = false := by simpa using close
    have run : scanSelected near candidate selected.length false [] selected =
        some (false, selected) := by
      have through := @scanSelected_far near candidate selected [] [] 0 false far
      rw [Nat.add_zero, List.append_nil] at through
      rw [through]
      simp [scanSelected]
    have clear : crowds newRecords candidate selected = false := by
      have skip : selected.dropWhile (fun existing => !near existing) = [] :=
        List.dropWhile_eq_nil_iff.mpr fun existing listed => by simp [far existing listed]
      simp only [crowds, ← nearness, skip]
    unfold selectCandidate
    rw [← nearness, run]
    refine .alone far clear ?_
    show List.Subperm (if selected.length < limit then selected ++ [candidate]
      else replaceWorst selected candidate) _
    split
    · exact (List.perm_append_singleton candidate selected).subperm
    · exact replaceWorst_subperm selected candidate

lemma selectCandidate_subperm (limit : Nat) (newRecords : List FeatureRecord)
    (selected : List Selected) (candidate : Selected) :
    (selectCandidate limit newRecords selected candidate).Subperm (candidate :: selected) := by
  have considered := selectCandidate_considered limit newRecords selected candidate
  generalize selectCandidate limit newRecords selected candidate = updated at considered ⊢
  cases considered with
  | rejected _ => exact .cons_self
  | alone _ _ sub => exact sub
  | placed split apart sub crowded =>
    rename_i far rest kept first
    rw [split]
    refine List.perm_middle.subperm.trans ((List.subperm_cons candidate).mpr ?_)
    exact (List.Subperm.refl far).append (sub.cons_right first)

/-- The entries of a list are pairwise apart. -/
def Spaced (newRecords : List FeatureRecord) (selected : List Selected) : Prop :=
  selected.Pairwise fun a b => nearSelected newRecords a b = false

lemma nearSelected_comm (a b : Selected) :
    nearSelected newRecords a b = nearSelected newRecords b a := by
  have squared : ∀ a b, squaredDistance a b = squaredDistance b a := by
    intro a b
    simp only [squaredDistance]
    ring
  unfold nearSelected
  cases newRecords[a.newIndex]? with
  | none => cases newRecords[b.newIndex]? <;> rfl
  | some first =>
    cases newRecords[b.newIndex]? with
    | none => rfl
    | some second => simp only [squared first second]

lemma Spaced.subperm {kept : List Selected} (spaced : Spaced newRecords selected)
    (sub : kept.Subperm selected) : Spaced newRecords kept := by
  obtain ⟨sorted, perm, sublist⟩ := sub
  have symmetric : ∀ {a b : Selected}, nearSelected newRecords a b = false →
      nearSelected newRecords b a = false := fun h => (nearSelected_comm _ _).trans h
  exact (perm.pairwise_iff symmetric).mp (List.Pairwise.sublist sublist spaced)

/-- A candidate keeps the entries apart unless it crowds another one. -/
lemma selectCandidate_spaced (limit : Nat) (spaced : Spaced newRecords selected) :
    Spaced newRecords (selectCandidate limit newRecords selected candidate) ↔
      crowds newRecords candidate selected = false := by
  have considered := selectCandidate_considered limit newRecords selected candidate
  generalize selectCandidate limit newRecords selected candidate = updated at considered ⊢
  cases considered with
  | rejected clear => exact ⟨fun _ => clear, fun _ => spaced⟩
  | alone far clear sub =>
    have together : Spaced newRecords (candidate :: selected) :=
      List.pairwise_cons.mpr ⟨far, spaced⟩
    exact ⟨fun _ => clear, fun _ => together.subperm sub⟩
  | placed split apart sub crowded =>
    rename_i far rest kept first
    have others : Spaced newRecords (far ++ kept) := by
      refine spaced.subperm ?_
      rw [split]
      exact (List.Subperm.refl far).append (sub.cons_right first)
    have moved : (far ++ candidate :: kept).Perm (candidate :: (far ++ kept)) :=
      List.perm_middle
    constructor
    · intro result
      have all := List.pairwise_cons.mp (result.subperm moved.symm.subperm)
      by_contra clear
      rw [Bool.not_eq_false, ← crowded] at clear
      obtain ⟨existing, listed, close⟩ := clear
      rw [all.1 existing (List.mem_append_right far listed)] at close
      cases close
    · intro clear
      have together : Spaced newRecords (candidate :: (far ++ kept)) := by
        refine List.pairwise_cons.mpr ⟨fun existing listed => ?_, others⟩
        rcases List.mem_append.mp listed with before | after
        · exact apart existing before
        · by_contra close
          rw [Bool.not_eq_false] at close
          rw [crowded.mp ⟨existing, after, close⟩] at clear
          cases clear
      exact together.subperm moved.subperm

end Step

end GoodixSpi.Chicago
