import GoodixSpi.Chicago.Enrollment.Grids
import GoodixSpi.Chicago.Enrollment.Layout
import Mathlib.Data.List.Induction

/-! The group: its edges into the relation table and its anchor. Both survive every
operation but one. Dropping a sub-template that is the anchor leaves the anchor behind,
and an insertion that then joins the group writes past its block. -/

namespace GoodixSpi.Chicago

namespace Enrollment

variable {self after : Enrollment}

/-- Every edge names a relation of the table, each one once. -/
structure EdgesInside (e : Enrollment) : Prop where
  increasing : e.groupEdges.Pairwise (· < ·)
  inside : ∀ edge ∈ e.groupEdges, edge < e.relations.length

def groups (self : Enrollment) : List UInt32 := self.subtemplates.map Subtemplate.groupState

/-- The anchor names a live member of the group, and a group has one. -/
structure Anchored (e : Enrollment) : Prop where
  anchor : e.hasGroupAnchor = true → e.groups[e.groupAnchor]? = some 1
  member : 1 ∈ e.groups → e.hasGroupAnchor = true

lemma groupState_eq (index : Nat) : self.groupState index = (self.groups[index]?).getD 0 := by
  rw [groupState, groups, List.getElem?_map]

lemma length_groups : self.groups.length = self.count := List.length_map _

lemma hasGroup_iff : self.hasGroup = true ↔ 1 ∈ self.groups := by
  simp only [hasGroup, groups, List.any_eq_true, beq_iff_eq, List.mem_map]

/-- The anchor, if there is one, is a live member of the group. -/
def AnchorLive (self : Enrollment) : Prop :=
  self.hasGroupAnchor = true →
    self.groupAnchor < self.count ∧ self.groupState self.groupAnchor = 1

lemma Anchored.inside (h : self.Anchored) : self.AnchorLive := by
  intro anchored
  have at_ := h.anchor anchored
  obtain ⟨below, -⟩ := List.getElem?_eq_some_iff.mp at_
  rw [length_groups] at below
  exact ⟨below, by rw [groupState_eq, at_, Option.getD_some]⟩

/-! ### The candidate -/

lemma considerCandidate_cases (grouped : Bool) (metricData : MetricData) (best : Option Candidate)
    (entry : (Comparison × Subtemplate) × Nat) :
    considerCandidate grouped metricData best entry = best ∨
      ∃ inliers score, considerCandidate grouped metricData best entry =
        some ⟨entry.2, inliers, score⟩ := by
  unfold considerCandidate
  dsimp only
  split
  · exact .inl rfl
  · cases best with
    | none => exact .inr ⟨_, _, rfl⟩
    | some candidate =>
      dsimp only
      split
      · exact .inr ⟨_, _, rfl⟩
      · exact .inl rfl

lemma findCandidate_index {metricData : MetricData} {comparisons : List Comparison}
    {candidate : Candidate} (found : self.findCandidate metricData comparisons = some candidate) :
    candidate.index < self.count := by
  have fold : ∀ (entries : List ((Comparison × Subtemplate) × Nat)) (best : Option Candidate),
      (∀ entry ∈ entries, entry.2 < self.count) →
      (∀ candidate, best = some candidate → candidate.index < self.count) →
      ∀ candidate, entries.foldl (considerCandidate self.hasGroup metricData) best =
        some candidate → candidate.index < self.count := by
    intro entries
    induction entries with
    | nil => exact fun best _ holds => holds
    | cons entry rest ih =>
      intro best inside holds
      refine ih _ (fun e he => inside e (List.mem_cons_of_mem entry he)) fun candidate taken => ?_
      rcases considerCandidate_cases self.hasGroup metricData best entry with
        kept | ⟨inliers, score, chosen⟩
      · exact holds candidate (kept.symm.trans taken)
      · rw [chosen] at taken
        cases taken
        exact inside entry List.mem_cons_self
  refine fold _ none (fun entry listed => ?_) (fun _ h => by cases h) candidate found
  have below := List.snd_lt_of_mem_zipIdx listed
  rw [List.length_zip] at below
  exact below.trans_le (Nat.min_le_right _ _)

/-! ### Edges -/

lemma acceptedEdges_increasing (base : Nat) (comparisons : List Comparison) :
    (acceptedEdges base comparisons).Pairwise (· < ·) := by
  have order : comparisons.zipIdx.Pairwise fun a b => a.2 < b.2 := by
    have indices := List.pairwise_lt_range' (s := 0) (n := comparisons.length)
    rw [← List.zipIdx_map_snd 0 comparisons, List.pairwise_map] at indices
    exact indices
  refine List.Pairwise.filterMap _ (fun a b earlier i first j second => ?_) order
  split at first <;> cases first
  split at second <;> cases second
  omega

lemma acceptedEdges_inside {base edge : Nat} {comparisons : List Comparison}
    (listed : edge ∈ acceptedEdges base comparisons) :
    base ≤ edge ∧ edge < base + comparisons.length := by
  obtain ⟨entry, here, taken⟩ := List.mem_filterMap.mp listed
  have below := List.snd_lt_of_mem_zipIdx here
  split at taken <;> cases taken
  omega

lemma dropEdges_concat (base edge : Nat) (edges : List Nat) :
    dropEdges base (edges ++ [edge]) =
      if base ≤ edge then dropEdges base edges else edges ++ [edge] := by
  simp only [dropEdges, List.reverse_append, List.reverse_singleton, List.singleton_append,
    List.dropWhile_cons, decide_eq_true_eq]
  split <;> simp

/-- What stays of an increasing list is what lies below the base. -/
lemma dropEdges_below (base : Nat) {edges : List Nat} (increasing : edges.Pairwise (· < ·)) :
    (dropEdges base edges).Pairwise (· < ·) ∧ ∀ edge ∈ dropEdges base edges, edge < base := by
  induction edges using List.reverseRecOn with
  | nil => exact ⟨increasing, fun _ h => absurd h List.not_mem_nil⟩
  | append_singleton edges last ih =>
    obtain ⟨front, -, apart⟩ := List.pairwise_append.mp increasing
    rw [dropEdges_concat]
    split
    · exact ih front
    · next below =>
      refine ⟨increasing, fun edge listed => ?_⟩
      rcases List.mem_append.mp listed with earlier | here
      · have := apart edge earlier last (List.mem_singleton.mpr rfl)
        omega
      · rw [List.mem_singleton.mp here]
        omega

lemma dropEdges_of_below {base : Nat} {edges : List Nat} (below : ∀ edge ∈ edges, edge < base) :
    dropEdges base edges = edges := by
  induction edges using List.reverseRecOn with
  | nil => rfl
  | append_singleton edges last _ =>
    have := below last (List.mem_append_right _ (List.mem_singleton.mpr rfl))
    rw [dropEdges_concat, if_neg (by omega)]

lemma EdgesInside.append (h : self.EdgesInside) {edges : List Nat}
    (increasing : edges.Pairwise (· < ·)) (later : ∀ edge ∈ edges, self.relations.length ≤ edge)
    (grown : self.relations.length ≤ after.relations.length)
    (inside : ∀ edge ∈ edges, edge < after.relations.length)
    (added : after.groupEdges = self.groupEdges ++ edges) : after.EdgesInside where
  increasing := by
    rw [added]
    refine List.pairwise_append.mpr ⟨h.increasing, increasing, fun old listed new here => ?_⟩
    have := h.inside old listed
    have := later new here
    omega
  inside edge listed := by
    rw [added] at listed
    rcases List.mem_append.mp listed with old | new
    · have := h.inside edge old
      omega
    · exact inside edge new

/-- Operations that add no edge. -/
lemma EdgesInside.keep (h : self.EdgesInside)
    (grown : self.relations.length ≤ after.relations.length)
    (same : after.groupEdges = self.groupEdges) : after.EdgesInside :=
  h.append List.Pairwise.nil (fun _ h => absurd h List.not_mem_nil) grown
    (fun _ h => absurd h List.not_mem_nil) (by rw [same, List.append_nil])

/-! ### The anchor -/

/-- One more sub-template beside the same anchor. -/
lemma Anchored.append (h : self.Anchored) (state : UInt32)
    (added : after.groups = self.groups ++ [state])
    (anchor : after.groupAnchor = self.groupAnchor)
    (anchored : after.hasGroupAnchor = self.hasGroupAnchor)
    (joined : state = 1 → self.hasGroupAnchor = true) : after.Anchored where
  anchor flag := by
    rw [anchored] at flag
    have at_ := h.anchor flag
    rw [added, anchor, List.getElem?_append_left (List.getElem?_eq_some_iff.mp at_).1, at_]
  member listed := by
    rw [anchored]
    rw [added, List.mem_append, List.mem_singleton] at listed
    rcases listed with old | new
    · exact h.member old
    · exact joined new.symm

lemma largestRoot_spec (size : Nat → Nat) (count : Nat) :
    (largestRoot size count).2 = 0 ∨
      ∃ root, (largestRoot size count).1 = some root ∧ (largestRoot size count).2 = size root := by
  have fold : ∀ (roots : List Nat) (best : Option Nat × Nat),
      (best.2 = 0 ∨ ∃ root, best.1 = some root ∧ best.2 = size root) →
      let final := roots.foldl (fun best root =>
        if size root > best.2 then (some root, size root) else best) best
      final.2 = 0 ∨ ∃ root, final.1 = some root ∧ final.2 = size root := by
    intro roots
    induction roots with
    | nil => exact fun _ h => h
    | cons root rest ih =>
      intro best h
      refine ih _ ?_
      dsimp only
      split
      · exact .inr ⟨root, rfl, rfl⟩
      · exact h
  exact fold _ _ (.inl rfl)

/-- The rebuilt group is a component of strong relations, anchored at its root. -/
lemma rebuildMatcherGroup_anchored : self.rebuildMatcherGroup.Anchored := by
  unfold rebuildMatcherGroup
  dsimp only
  split
  · next root best largest =>
    have spec := largestRoot_spec self.forest.size self.count
    rw [largest] at spec
    obtain ⟨root', same, sized⟩ := spec.resolve_left (Nat.succ_ne_zero _)
    cases same
    obtain ⟨below, own⟩ := @SearchForest.build_counts self.strongRelation self.count root (by
        have positive : 0 < self.forest.size root := by omega
        exact positive)
    have own : self.forest.component root = some root := own
    have live : root < self.subtemplates.length := below
    refine ⟨fun _ => ?_, fun _ => rfl⟩
    simp only [groups, List.getElem?_map, List.getElem?_mapIdx, List.getElem?_eq_getElem live,
      Option.map_some, own, if_true]
  · refine ⟨fun flag => (Bool.false_ne_true flag).elim, fun listed => ?_⟩
    simp [groups] at listed

lemma rebuildMatcherGroup_anchor (self : Enrollment) :
    self.rebuildMatcherGroup.hasGroupAnchor = true ∨
      self.rebuildMatcherGroup.groupAnchor = self.groupAnchor := by
  unfold rebuildMatcherGroup
  dsimp only
  split
  · exact .inl rfl
  · exact .inr rfl

lemma Anchored.outcome (h : self.Anchored) {sample : Sample}
    {metricData : MetricData} {comparisons : List Comparison}
    (outcome : Outcome self sample metricData comparisons after) :
    after.Anchored ∧ (after.hasGroupAnchor = true → after.groupAnchor < self.count) := by
  have inside : self.hasGroupAnchor = true → self.groupAnchor < self.count :=
    fun flag => (h.inside flag).1
  cases outcome with
  | alone lone closed =>
    refine ⟨h.append 0 ?_ rfl rfl (fun one => absurd one (by decide)), inside⟩
    simp only [groups, appendSample, List.map_append, List.map_cons, List.map_nil]
  | joins candidate joined found =>
    have grouped : self.hasGroup = true := (Bool.and_eq_true_iff.mp joined).1
    have anchored := h.member (hasGroup_iff.mp grouped)
    refine ⟨h.append 1 ?_ rfl rfl (fun _ => anchored), inside⟩
    simp only [groups, joinGroup, appendSample, List.map_append, List.map_cons, List.map_nil]
  | opens candidate formed found opened opened_eq =>
    have below := findCandidate_index found
    subst opened_eq
    refine ⟨⟨fun _ => ?_, fun _ => rfl⟩, fun _ => below⟩
    have live : candidate.index < self.subtemplates.length := below
    simp only [groups, synthesizeFirstGroupRelations, appendSample, openGroup, List.map_append,
      List.map_map, List.map_cons, List.map_nil]
    rw [List.getElem?_append_left (by simpa using live)]
    simp only [List.getElem?_map, List.getElem?_eq_getElem live, Option.map_some,
      Function.comp_apply]

/-- The drop that leaves the anchor behind. -/
def DropsAnchor (self : Enrollment) (operation : Operation) : Prop :=
  operation = .dropLast ∧ self.hasGroupAnchor = true ∧ 2 ≤ self.count ∧
    self.groupAnchor + 1 = self.count

lemma dropLast_loses (dropped : self.DropsAnchor .dropLast) (ok : self.dropLast = .ok after) :
    ¬after.AnchorLive := by
  obtain ⟨earlier, last, split, rfl⟩ := dropLast_ok ok
  obtain ⟨-, flag, two, last_⟩ := dropped
  have counted : self.count = earlier.length + 1 := by
    rw [Enrollment.count, split, List.length_append, List.length_singleton]
  have started : earlier.length ≠ 0 := by omega
  intro live
  obtain ⟨below, -⟩ := live (by simp only [Enrollment.dropped, if_neg started, flag])
  simp only [Enrollment.dropped, if_neg started, Enrollment.count] at below
  omega

lemma Anchored.dropLast (h : self.Anchored) (kept : ¬self.DropsAnchor .dropLast)
    (ok : self.dropLast = .ok after) : after.Anchored := by
  obtain ⟨earlier, last, split, rfl⟩ := dropLast_ok ok
  have counted : self.count = earlier.length + 1 := by
    rw [Enrollment.count, split, List.length_append, List.length_singleton]
  have before : self.groups = earlier.map Subtemplate.groupState ++ [last.groupState] := by
    rw [groups, split, List.map_append, List.map_cons, List.map_nil]
  by_cases emptied : earlier.length = 0
  · refine ⟨fun flag => ?_, fun listed => ?_⟩
    · simp only [Enrollment.dropped, if_pos emptied] at flag
      cases flag
    · simp [groups, Enrollment.dropped, List.length_eq_zero_iff.mp emptied] at listed
  · refine ⟨fun flag => ?_, fun listed => ?_⟩
    · simp only [Enrollment.dropped, if_neg emptied] at flag ⊢
      have at_ := h.anchor flag
      have below := (h.inside flag).1
      have other : self.groupAnchor ≠ earlier.length := fun same =>
        kept ⟨rfl, flag, by omega, by omega⟩
      rw [before, List.getElem?_append_left (by rw [List.length_map]; omega)] at at_
      exact at_
    · simp only [Enrollment.dropped, if_neg emptied]
      refine h.member ?_
      rw [before]
      exact List.mem_append_left _ listed

/-- An operation keeps the anchor alive unless it drops it. -/
lemma Anchored.step (h : self.Anchored) {operation : Operation}
    (permitted : ¬self.DropsAnchor operation) (succeeds : self.step operation = some after) :
    after.Anchored := by
  cases operation with
  | insertFirst sample =>
    obtain ⟨result, ok⟩ := ok_of_toOption_fst succeeds
    obtain ⟨-, -, -, rfl⟩ := insertFirst_ok ok
    refine h.append 0 ?_ rfl rfl (fun one => absurd one (by decide))
    simp only [groups, List.map_append, List.map_cons, List.map_nil]
    rfl
  | insertNext sample =>
    obtain ⟨result, ok⟩ := ok_of_toOption_fst succeeds
    obtain ⟨metricData, -, -, -, -, -, -, rfl⟩ := insertNext_ok ok
    exact (h.outcome (insertCompared_outcome self sample metricData _)).1
  | dropLast => exact h.dropLast permitted (ok_of_toOption succeeds)
  | appendStudy probe selectedIndex relations =>
    obtain ⟨appended, ok⟩ := ok_of_toOption_fst succeeds
    obtain ⟨metricData, source, -, -, -, -, -, -, -, rfl⟩ := appendStudy_ok ok
    exact rebuildMatcherGroup_anchored
  | replaceStudy probe selectedIndex replacementIndex relations =>
    obtain ⟨replaces, -⟩ := replaceStudy_replaces (ok_of_toOption succeeds)
    have same : after.groups = self.groups := replaces.groups
    refine ⟨fun flag => ?_, fun listed => ?_⟩
    · rw [same, replaces.groupAnchor]
      exact h.anchor (replaces.hasGroupAnchor ▸ flag)
    · rw [replaces.hasGroupAnchor]
      exact h.member (same ▸ listed)

/-! ### One operation -/

/-- Insertions that join a group whose anchor is gone. -/
def JoinsPastAnchor (self : Enrollment) (operation : Operation) : Prop :=
  ∃ sample metricData, operation = .insertNext sample ∧ sample.metricData = some metricData ∧
    self.joinsGroup metricData (self.subtemplates.map (compare sample metricData)) = true ∧
    self.count ≤ self.groupAnchor

/-- Where joining writes. -/
lemma joinSlot (layout : Layout self) (small : self.groupAnchor < enrollmentCapacity)
    (sample : Sample) (metricData : MetricData) (groupState : UInt32)
    (relations : List Relation) :
    (self.appendSample sample metricData groupState relations).relationIndex self.count
      self.groupAnchor = self.relations.length + self.groupAnchor := by
  have few := layout.count
  have fifty : enrollmentCapacity = 50 := rfl
  have short := triangleBase_small few
  have base : (self.appendSample sample metricData groupState relations).relationBase self.count =
      UInt32.ofNat self.relations.length := by
    simp only [relationBase, appendSample, Enrollment.count, List.getElem?_concat_length,
      Option.map_some, Option.getD_some]
  have length := layout.relations
  rw [relationIndex, base, ← UInt32.ofNat_add, toNat_ofNat_of_lt (by omega)]

/-- An insertion keeps the edges inside unless it joins past the anchor. -/
lemma EdgesInside.outcome_iff (h : self.EdgesInside) (layout : Layout self)
    (small : self.groupAnchor < enrollmentCapacity) {sample : Sample}
    {metricData : MetricData} {comparisons : List Comparison}
    (all : comparisons.length = self.count)
    (outcome : Outcome self sample metricData comparisons after) :
    after.EdgesInside ↔
      ¬(self.joinsGroup metricData comparisons = true ∧ self.count ≤ self.groupAnchor) := by
  have grown := outcome.grows.relations
  cases outcome with
  | alone lone closed =>
    refine iff_of_true (h.keep (by omega) rfl) ?_
    rw [lone]
    exact fun bad => absurd bad.1 Bool.false_ne_true
  | joins candidate joined found =>
    have slot := joinSlot layout small sample metricData 1 (comparisons.map Comparison.relation)
    have added : ((self.appendSample sample metricData 1
        (comparisons.map Comparison.relation)).joinGroup self.count candidate.index).groupEdges =
        self.groupEdges ++ [self.relations.length + self.groupAnchor] := by
      rw [← slot]
      rfl
    constructor
    · rintro kept ⟨-, outside⟩
      have edge := kept.inside (self.relations.length + self.groupAnchor) (by simp [added])
      omega
    · intro permitted
      have inside : self.groupAnchor < self.count := by
        by_contra outside
        exact permitted ⟨joined, by omega⟩
      refine h.append (List.pairwise_singleton _ _) (fun edge listed => ?_) (by omega)
        (fun edge listed => ?_) added
      · rw [List.mem_singleton.mp listed]
        omega
      · rw [List.mem_singleton.mp listed]
        omega
  | opens candidate formed found opened opened_eq =>
    refine iff_of_true ?_ ?_
    · refine h.append (acceptedEdges_increasing self.relations.length comparisons)
        (fun edge listed => (acceptedEdges_inside listed).1) (by omega) (fun edge listed => ?_) ?_
      · have := (acceptedEdges_inside listed).2
        omega
      · rw [opened_eq]
        rfl
    · rintro ⟨joined, -⟩
      have grouped : self.hasGroup = true := (Bool.and_eq_true_iff.mp joined).1
      simp [formsGroup, grouped] at formed

/-- An operation keeps the edges inside exactly when it does not join past the anchor. -/
lemma EdgesInside.step_iff (h : self.EdgesInside) (layout : Layout self)
    (small : self.groupAnchor < enrollmentCapacity) {operation : Operation}
    (succeeds : self.step operation = some after) :
    after.EdgesInside ↔ ¬self.JoinsPastAnchor operation := by
  have other : (∀ sample, operation ≠ .insertNext sample) → ¬self.JoinsPastAnchor operation := by
    rintro differs ⟨sample, -, same, -⟩
    exact differs sample same
  cases operation with
  | insertFirst sample =>
    obtain ⟨result, ok⟩ := ok_of_toOption_fst succeeds
    obtain ⟨-, -, -, rfl⟩ := insertFirst_ok ok
    exact iff_of_true (h.keep (by simp) rfl) (other fun _ => by simp)
  | insertNext sample =>
    obtain ⟨result, ok⟩ := ok_of_toOption_fst succeeds
    obtain ⟨metricData, given, -, -, -, -, -, rfl⟩ := insertNext_ok ok
    rw [h.outcome_iff layout small (List.length_map _)
      (insertCompared_outcome self sample metricData _)]
    refine not_congr ⟨fun bad => ⟨sample, metricData, rfl, given, bad⟩, ?_⟩
    rintro ⟨sample', metricData', same, given', bad⟩
    cases same
    cases given.symm.trans given'
    exact bad
  | dropLast =>
    obtain ⟨earlier, last, split, rfl⟩ := dropLast_ok (ok_of_toOption succeeds)
    refine iff_of_true ?_ (other fun _ => by simp)
    obtain ⟨increasing, below⟩ := dropEdges_below last.relationBase.toNat h.increasing
    refine ⟨increasing, fun edge listed => (below edge listed).trans_le ?_⟩
    simp only [dropped, resizeRelations, List.length_append, List.length_take, List.length_replicate]
    omega
  | appendStudy probe selectedIndex relations =>
    obtain ⟨appended, ok⟩ := ok_of_toOption_fst succeeds
    obtain ⟨metricData, source, grows⟩ := appendStudy_grows ok
    obtain ⟨metricData, source, -, -, -, -, -, -, -, rfl⟩ := appendStudy_ok ok
    refine iff_of_true ?_ (other fun _ => by simp)
    refine h.keep (by rw [grows.relations]; exact Nat.le_add_right _ _) ?_
    exact (rebuildMatcherGroup_frame _).2.2.2.2.2.2
  | replaceStudy probe selectedIndex replacementIndex relations =>
    obtain ⟨replaces, -⟩ := replaceStudy_replaces (ok_of_toOption succeeds)
    exact iff_of_true (h.keep replaces.relations.ge replaces.groupEdges) (other fun _ => by simp)

/-- The anchor stays a small number even when its sub-template is gone. -/
lemma groupAnchor_step (layout : Layout self) (small : self.groupAnchor < enrollmentCapacity)
    {operation : Operation} (succeeds : self.step operation = some after) :
    after.groupAnchor < enrollmentCapacity := by
  have few := layout.count
  cases operation with
  | insertFirst sample =>
    obtain ⟨result, ok⟩ := ok_of_toOption_fst succeeds
    obtain ⟨-, -, -, rfl⟩ := insertFirst_ok ok
    exact small
  | insertNext sample =>
    obtain ⟨result, ok⟩ := ok_of_toOption_fst succeeds
    obtain ⟨metricData, -, -, -, -, -, -, rfl⟩ := insertNext_ok ok
    have outcome := insertCompared_outcome self sample metricData
      (self.subtemplates.map (compare sample metricData))
    generalize self.insertCompared sample metricData
      (self.subtemplates.map (compare sample metricData)) = inserted at outcome
    cases outcome with
    | alone lone closed => exact small
    | joins candidate joined found => exact small
    | opens candidate formed found opened opened_eq =>
      subst opened_eq
      exact (findCandidate_index found).trans_le few
  | dropLast =>
    obtain ⟨earlier, last, split, rfl⟩ := dropLast_ok (ok_of_toOption succeeds)
    show (if earlier.length = 0 then 0 else self.groupAnchor) < enrollmentCapacity
    split
    · decide
    · exact small
  | appendStudy probe selectedIndex relations =>
    obtain ⟨appended, ok⟩ := ok_of_toOption_fst succeeds
    have grown := layout.appendStudy ok
    obtain ⟨metricData, source, -, -, -, -, -, -, -, rfl⟩ := appendStudy_ok ok
    rcases rebuildMatcherGroup_anchor
      ((self.studySource selectedIndex).appendProbe probe metricData source relations) with flag | kept
    · exact (rebuildMatcherGroup_anchored.inside flag).1.trans_le grown.count
    · rw [kept]
      exact small
  | replaceStudy probe selectedIndex replacementIndex relations =>
    obtain ⟨replaces, -⟩ := replaceStudy_replaces (ok_of_toOption succeeds)
    rw [replaces.groupAnchor]
    exact small

end Enrollment

/-! ### Runs -/

namespace Enrollment

variable {self : Enrollment}

lemma edgesInside_new : EdgesInside new :=
  ⟨List.Pairwise.nil, fun _ h => absurd h List.not_mem_nil⟩

lemma anchored_new : Anchored new :=
  ⟨fun flag => (Bool.false_ne_true flag).elim, fun h => absurd h List.not_mem_nil⟩

lemma edgesInside_of_reachable
    (h : Reachable (fun before operation => ¬before.JoinsPastAnchor operation) self) :
    self.groupAnchor < enrollmentCapacity ∧ self.EdgesInside := by
  have invariant : Layout self ∧ self.groupAnchor < enrollmentCapacity ∧ self.EdgesInside :=
    h.invariant (fun e => Layout e ∧ e.groupAnchor < enrollmentCapacity ∧ e.EdgesInside)
      ⟨Layout.new, by decide, edgesInside_new⟩
      fun before operation after ⟨layout, small, edges⟩ permitted succeeds =>
        ⟨layout.step succeeds, groupAnchor_step layout small succeeds,
          (edges.step_iff layout small succeeds).mpr permitted⟩
  exact invariant.2

lemma anchored_of_reachable
    (h : Reachable (fun before operation => ¬before.DropsAnchor operation) self) : self.Anchored :=
  h.invariant Anchored anchored_new fun _ _ _ anchored permitted succeeds =>
    anchored.step permitted succeeds

lemma Anchored.joins_inside (h : self.Anchored) (operation : Operation) :
    ¬self.JoinsPastAnchor operation := by
  rintro ⟨sample, metricData, -, -, joined, past⟩
  have grouped : self.hasGroup = true := (Bool.and_eq_true_iff.mp joined).1
  have below := (h.inside (h.member (hasGroup_iff.mp grouped))).1
  omega

/-- A run that keeps its anchor never joins past it. -/
lemma joins_inside_of_reachable
    (h : Reachable (fun before operation => ¬before.DropsAnchor operation) self) :
    Reachable (fun before operation => ¬before.JoinsPastAnchor operation) self :=
  (h.annotate Anchored anchored_new fun _ _ _ anchored permitted succeeds =>
    anchored.step permitted succeeds).mono
      fun _ operation annotated => annotated.2.joins_inside operation

end Enrollment

/-! ### Runs on grids -/

/-- The second sample anchors the group of the second and third, which are then dropped. -/
def anchorDropped : List Operation :=
  [.insertFirst (gridSample false 1), .insertNext (gridSample false 2),
    .insertNext (gridSample true 2), .dropLast, .dropLast]

lemma inserted_beforeDrops :
    Reachability.run Enrollment.step gridGallery
        ([(false, 2), (true, 2)].map fun grid : Grid => .insertNext (gridSample grid.1 grid.2)) =
      some (gridGallery.insertGrids [(false, 1)] [(false, 2), (true, 2)]) ∧
    (gridGallery.insertGrids [(false, 1)] [(false, 2), (true, 2)]).OnGrids
      ([(false, 1)] ++ [(false, 2), (true, 2)]) :=
  onGrids_gridGallery.run (List.cons_ne_nil _ _) (by decide) ⟨by simp [IsMark], by simp⟩

lemma run_anchorDropped : Reachability.run Enrollment.step .new anchorDropped =
    Reachability.run Enrollment.step (gridGallery.insertGrids [(false, 1)] [(false, 2), (true, 2)])
      [.dropLast, .dropLast] := by
  have split : anchorDropped = .insertFirst (gridSample false 1) ::
      ([(false, 2), (true, 2)].map (fun grid : Grid => .insertNext (gridSample grid.1 grid.2)) ++
        [.dropLast, .dropLast]) := rfl
  rw [split, Reachability.run_of_step step_gridGallery, Reachability.run_append,
    inserted_beforeDrops.1, Option.bind_some]

/-- The representation invariant: the triangular layout, a match order that visits every
sub-template once, and edges that ascend inside the table. Only an insertion that joins a
group whose anchor was dropped breaks it, and every such insertion does. -/
theorem representation_invariant {e : Enrollment}
    (h : Reachable (fun before operation => ¬before.JoinsPastAnchor operation) e) :
    (Layout e ∧ ((List.range e.count).map fun schedule => (e.orderAt schedule).toNat).Perm
      (List.range e.count) ∧ e.EdgesInside) ∧
      ∀ operation after, e.step operation = some after →
        (Layout after ∧ after.EdgesInside ↔ ¬e.JoinsPastAnchor operation) := by
  have layout := layout_of_reachable h
  obtain ⟨small, edges⟩ := Enrollment.edgesInside_of_reachable h
  refine ⟨⟨layout, layout.scheduled.perm, edges⟩, fun operation after succeeds => ?_⟩
  rw [← edges.step_iff layout small succeeds]
  exact and_iff_right (layout.step succeeds)

theorem representation_invariant_first :
    Enrollment.new.step (.insertFirst (gridSample false 1)) = some gridGallery ∧
      Layout gridGallery ∧ gridGallery.EdgesInside := by
  have permitted : ¬Enrollment.new.JoinsPastAnchor (.insertFirst (gridSample false 1)) := by
    rintro ⟨sample, metricData, same, -⟩
    cases same
  have holds := (representation_invariant (.step .start permitted step_gridGallery)).1
  exact ⟨rfl, holds.1, holds.2.2⟩

/-- A fourth sample matches the first one and joins the group without an anchor. -/
theorem group_edge_past_table :
    ¬∀ e, Reachable (fun _ _ => True) e → Layout e ∧ e.EdgesInside := by
  intro invariant
  have past : (Reachability.run Enrollment.step
      (gridGallery.insertGrids [(false, 1)] [(false, 2), (true, 2)])
      [.dropLast, .dropLast]).any (fun e =>
        (e.insertGrids [(false, 1)] [(true, 1)]).groupEdges.any fun edge =>
          decide ((e.insertGrids [(false, 1)] [(true, 1)]).relations.length ≤ edge)) = true := by
    decide +kernel
  obtain ⟨e, runs, outside⟩ := (Option.any_eq_true _ _).mp past
  obtain ⟨edge, listed, large⟩ := List.any_eq_true.mp outside
  have dropped : e.OnGrids [(false, 1)] := inserted_beforeDrops.2.drops runs
  have joined := (dropped.run (List.cons_ne_nil _ _) (by decide)
    (⟨by simp [IsMark], by simp⟩ : Enrollment.Apart ([(false, 1)] ++ [(true, 1)]))).1
  have reached : Reachable (fun _ _ => True) e :=
    Reachability.Reaches.start.run (fun _ _ _ => trivial) (run_anchorDropped.trans runs)
  have edges := (invariant _ (reached.run (fun _ _ _ => trivial) joined)).2
  have below := edges.inside edge listed
  exact absurd below (by simpa using large)

/-- The anchor names a live member of the group, so the slot an insertion writes for it
exists. Only a drop of the anchor itself breaks this, and every such drop does. -/
theorem group_anchor_live {e : Enrollment}
    (h : Reachable (fun before operation => ¬before.DropsAnchor operation) e) :
    e.AnchorLive ∧
      (∀ sample after result, e.insertNext sample = .ok (after, result) →
        after.hasGroupAnchor = true →
          after.relationIndex e.count after.groupAnchor < after.relations.length) ∧
      ∀ operation after, e.step operation = some after →
        (after.AnchorLive ↔ ¬e.DropsAnchor operation) := by
  have anchored := Enrollment.anchored_of_reachable h
  have layout := layout_of_reachable h
  refine ⟨anchored.inside, fun sample after result ok flag => ?_,
    fun operation after succeeds => ⟨?_, fun kept => (anchored.step kept succeeds).inside⟩⟩
  · have grown := layout.insertNext ok
    obtain ⟨metricData, -, -, -, -, -, -, rfl⟩ := Enrollment.insertNext_ok ok
    have outcome := Enrollment.insertCompared_outcome e sample metricData
      (e.subtemplates.map (Enrollment.compare sample metricData))
    have below := (anchored.outcome outcome).2 flag
    have counted := outcome.grows.count
    have few := grown.count
    have fifty : enrollmentCapacity = 50 := rfl
    have short := triangleBase_small (show e.count ≤ enrollmentCapacity by omega)
    have slot := grown.slot_inside (show e.count < Enrollment.count _ by omega) below
    rw [Enrollment.relationIndex, grown.relationBase (by omega), ← UInt32.ofNat_add,
      toNat_ofNat_of_lt (by omega)]
    exact slot
  · rintro live dropped
    obtain rfl := dropped.1
    exact Enrollment.dropLast_loses dropped (Enrollment.ok_of_toOption succeeds) live

theorem group_anchor_live_first :
    Enrollment.new.step (.insertFirst (gridSample false 1)) = some gridGallery ∧
      gridGallery.AnchorLive := by
  have permitted : ¬Enrollment.new.DropsAnchor (.insertFirst (gridSample false 1)) := by
    rintro ⟨same, -⟩
    cases same
  exact ⟨rfl, (group_anchor_live (.step .start permitted step_gridGallery)).1⟩

theorem group_anchor_dropped :
    ¬∀ e, Reachable (fun _ _ => True) e → e.AnchorLive := by
  intro live
  have lost : (Reachability.run Enrollment.step .new anchorDropped).any (fun e =>
      e.hasGroupAnchor && decide (e.count ≤ e.groupAnchor)) = true := by
    rw [run_anchorDropped]
    decide +kernel
  obtain ⟨e, runs, outside⟩ := (Option.any_eq_true _ _).mp lost
  rw [Bool.and_eq_true, decide_eq_true_eq] at outside
  have below := (live e (Reachability.Reaches.start.run (fun _ _ _ => trivial) runs) outside.1).1
  exact absurd below (by omega)

end GoodixSpi.Chicago
