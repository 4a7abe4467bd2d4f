import GoodixSpi.Chicago.Enrollment.CapacitySafety
import GoodixSpi.Chicago.Enrollment.Operation

/-! Lineages under replacement. Every replacement lowers all other positive lineages by one and
makes its own slot the newest. Lineages can meet at zero but never cross. -/

namespace GoodixSpi.Chicago

/-- The arguments of one `goodix_chicago_enrollment_replace_study`. -/
structure Replacement where
  probe : SubtemplateView
  selectedIndex : Nat
  replacementIndex : Nat
  relations : List Relation

namespace Enrollment

/-- `subtemplate->lineage_index`. -/
def lineage (self : Enrollment) (index : Nat) : Nat :=
  (self.subtemplates[index]?.map Subtemplate.lineageIndex).getD 0

/-- One call, and the slots that were replaced up to it. A call that is refused changes nothing;
none when the call dereferences a missing relation. -/
def replaceStep (run : Enrollment × List Nat) (call : Replacement) :
    Option (Enrollment × List Nat) :=
  match run.1.replaceStudy call.probe call.selectedIndex call.replacementIndex call.relations with
  | .ok after => some (after, run.2 ++ [call.replacementIndex])
  | .error (.error _) => some run
  | .error .nullDereference => none

/-- Any sequence of calls, with the slots that it replaces. -/
def replaceStudies (self : Enrollment) (calls : List Replacement) :
    Option (Enrollment × List Nat) :=
  calls.foldlM replaceStep (self, [])

variable {self after : Enrollment} {probe : SubtemplateView}
  {selectedIndex replacementIndex : Nat} {relations : List Relation}

lemma replaceStudy_subtemplates
    (replaces : self.replaceStudy probe selectedIndex replacementIndex relations = .ok after) :
    ∃ metricData source, replacementIndex < self.count ∧
      after.subtemplates =
        self.replaced probe metricData source selectedIndex replacementIndex := by
  unfold replaceStudy at replaces
  split at replaces
  · cases replaces
  · rename_i admitted
    push Not at admitted
    dsimp only at replaces
    split at replaces
    · rename_i source metricData _ _
      split at replaces
      · cases replaces
      · cases replaces
        exact ⟨metricData, source, admitted.2.2.1, rfl⟩
    · cases replaces

/-- What one replacement does to the lineages. -/
lemma replaceStudy_lineage
    (replaces : self.replaceStudy probe selectedIndex replacementIndex relations = .ok after) :
    after.count = self.count ∧ replacementIndex < self.count ∧ ∀ i < self.count,
      after.lineage i = if replacementIndex = i then self.count - 1 else self.lineage i - 1 := by
  obtain ⟨metricData, source, inside, same⟩ := replaceStudy_subtemplates replaces
  refine ⟨(replaceStudy_replaces replaces).1.count, inside, fun i live => ?_⟩
  have found : i < self.subtemplates.length := live
  rw [lineage, lineage, same, getElem?_replaced, List.getElem?_eq_getElem found, Option.map_some,
    Option.map_some, Option.getD_some, Option.map_some, Option.getD_some, replacedEntry]
  by_cases here : replacementIndex = i
  · rw [if_pos here, if_pos here]
  · rw [if_neg here, if_neg here]

/-- What a sequence of calls keeps, relative to the gallery that it started from. -/
structure KeepsLineages (before : Enrollment) (run : Enrollment × List Nat) : Prop where
  count : run.1.count = before.count
  bounded : ∀ i < before.count, run.1.lineage i < before.count
  newest : ∀ last, run.2.getLast? = some last →
    ∀ i < before.count, run.1.lineage i = before.count - 1 ↔ i = last
  order : ∀ older < before.count, ∀ newer < before.count, older ∉ run.2 → newer ∉ run.2 →
    before.lineage older ≤ before.lineage newer → run.1.lineage older ≤ run.1.lineage newer

lemma KeepsLineages.step {before : Enrollment} {run next : Enrollment × List Nat}
    {call : Replacement} (keeps : KeepsLineages before run)
    (steps : replaceStep run call = some next) : KeepsLineages before next := by
  unfold replaceStep at steps
  split at steps
  · rename_i after replaces
    cases steps
    obtain ⟨counted, inside, lineages⟩ := replaceStudy_lineage replaces
    rw [keeps.count] at counted inside lineages
    constructor
    · exact counted
    · intro i live
      have bound := keeps.bounded i live
      rw [lineages i live]
      split <;> omega
    · intro last listed i live
      rw [List.getLast?_concat, Option.some.injEq] at listed
      subst listed
      have bound := keeps.bounded i live
      rw [lineages i live]
      split <;> omega
    · intro older older_lt newer newer_lt unlisted unlisted' below
      rw [List.mem_append, List.mem_singleton, not_or] at unlisted unlisted'
      have kept := keeps.order older older_lt newer newer_lt unlisted.1 unlisted'.1 below
      rw [lineages older older_lt, lineages newer newer_lt, if_neg (Ne.symm unlisted.2),
        if_neg (Ne.symm unlisted'.2)]
      exact Nat.sub_le_sub_right kept 1
  · cases steps
    exact keeps
  · cases steps

lemma replaceStudy_sameSlots
    (replaces : self.replaceStudy probe selectedIndex replacementIndex relations = .ok after) :
    SameSlots self after := by
  obtain ⟨replaced, -⟩ := replaceStudy_replaces replaces
  refine ⟨replaced.count, replaced.capacity, fun index => ?_, replaced.relations⟩
  have here := congrArg (·[index]?) replaced.bases
  simp only [List.getElem?_map] at here
  rw [relationBase, relationBase, here]

/-- With a slot for every pair no sequence of calls meets a missing relation. -/
theorem replaceStudies_isSome (slots : self.SlotsExist) (calls : List Replacement) :
    (self.replaceStudies calls).isSome = true := by
  have run : ∀ (calls : List Replacement) (start : Enrollment × List Nat), start.1.SlotsExist →
      (calls.foldlM replaceStep start).isSome = true := by
    intro calls
    induction calls with
    | nil => exact fun _ _ => rfl
    | cons call rest ih =>
      intro start slots
      rw [List.foldlM_cons]
      unfold replaceStep
      split
      · rename_i after replaces
        exact ih _ ((replaceStudy_sameSlots replaces).slotsExist slots)
      · exact ih start slots
      · rename_i missing
        exact absurd missing (replaceStudy_findsSlots slots)
  exact run calls _ slots

/-- Lineages stay below the count, the slot that was replaced last is the only newest one, and
of two slots that were not replaced the older one does not become the newer. -/
theorem replacements_keep_lineage_order {calls : List Replacement} {slots : List Nat}
    (bounded : ∀ i < self.count, self.lineage i < self.count)
    (runs : self.replaceStudies calls = some (after, slots)) :
    after.count = self.count ∧ (∀ i < self.count, after.lineage i < self.count) ∧
      (∀ last, slots.getLast? = some last →
        ∀ i < self.count, after.lineage i = self.count - 1 ↔ i = last) ∧
      ∀ older < self.count, ∀ newer < self.count, older ∉ slots → newer ∉ slots →
        self.lineage older ≤ self.lineage newer → after.lineage older ≤ after.lineage newer := by
  have run : ∀ (calls : List Replacement) (start : Enrollment × List Nat),
      KeepsLineages self start → calls.foldlM replaceStep start = some (after, slots) →
      KeepsLineages self (after, slots) := by
    intro calls
    induction calls with
    | nil =>
      intro start keeps runs
      cases runs
      exact keeps
    | cons call rest ih =>
      intro start keeps runs
      rw [List.foldlM_cons] at runs
      obtain ⟨next, steps, later⟩ := Option.bind_eq_some_iff.mp runs
      exact ih next (keeps.step steps) later
  have start : KeepsLineages self (self, []) :=
    ⟨rfl, bounded, fun _ none => absurd none (by simp), fun _ _ _ _ _ _ below => below⟩
  obtain ⟨counted, bounds, newest, order⟩ := run calls _ start runs
  exact ⟨counted, bounds, newest, order⟩

/-- The first of two copies is replaced, then the second, then the first again. -/
theorem replacements_keep_lineage_order_pair :
    ∃ after, (pairGallery [sentinelRelation, sentinelRelation]).replaceStudies
        ([0, 1, 0].map fun slot =>
          ⟨emptyProbe, 0, slot, [sentinelRelation, sentinelRelation]⟩) =
        some (after, [0, 1, 0]) ∧
      after.lineage 0 = 1 ∧ after.lineage 1 ≠ 1 := by
  obtain ⟨after, runs⟩ : ∃ after, (pairGallery [sentinelRelation, sentinelRelation]).replaceStudies
      ([0, 1, 0].map fun slot =>
        ⟨emptyProbe, 0, slot, [sentinelRelation, sentinelRelation]⟩) =
      some (after, [0, 1, 0]) := ⟨_, rfl⟩
  have bounded : ∀ i < (pairGallery [sentinelRelation, sentinelRelation]).count,
      (pairGallery [sentinelRelation, sentinelRelation]).lineage i <
        (pairGallery [sentinelRelation, sentinelRelation]).count := by decide
  obtain ⟨-, -, newest, -⟩ := replacements_keep_lineage_order bounded runs
  have first := newest 0 rfl 0 (by decide)
  have second := newest 0 rfl 1 (by decide)
  exact ⟨after, runs, first.mpr rfl, fun same => absurd (second.mp same) (by decide)⟩

end Enrollment

end GoodixSpi.Chicago
