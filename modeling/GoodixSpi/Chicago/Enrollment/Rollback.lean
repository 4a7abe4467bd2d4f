import GoodixSpi.Chicago.Enrollment.Group

/-! Undoing the last insertion. A drop takes back the sub-template, its relations, its
edges and its place in the match order; it does not take back the first group. -/

namespace GoodixSpi.Chicago

namespace Enrollment

variable {self after : Enrollment}

/-- The order before the last append. -/
lemma dropOrder_append (layout : Layout self) (room : self.count < enrollmentCapacity)
    (order : after.matchOrder = self.setMatchOrder self.count self.count) :
    after.dropOrder self.count = self.matchOrder := by
  have fifty : enrollmentCapacity = 50 := rfl
  have value := toNat_ofNat_of_lt (n := self.count) (by omega)
  have at_ := orderAt_setMatchOrder order room
  have front : (List.range self.count).map after.orderAt =
      (List.range self.count).map self.orderAt :=
    List.map_congr_left fun schedule listed => by
      rw [at_, if_neg (List.mem_range.mp listed).ne]
  have kept : after.keptOrder self.count = (List.range self.count).map self.orderAt := by
    rw [keptOrder, List.range_succ, List.map_append, front, List.filter_append,
      List.filter_eq_self.mpr]
    · simp [at_]
    · intro entry listed
      obtain ⟨schedule, used, rfl⟩ := List.mem_map.mp listed
      have below := layout.scheduled.below schedule (List.mem_range.mp used)
      rw [bne_iff_ne, ne_eq, ← UInt32.toNat_inj, value]
      omega
  obtain ⟨closed, closed_eq⟩ : ∃ closed : Enrollment,
      closed.matchOrder = after.dropOrder self.count :=
    ⟨{ after with matchOrder := after.dropOrder self.count }, rfl⟩
  rw [← closed_eq]
  refine matchOrder_ext fun schedule inside => ?_
  rw [orderAt_dropOrder room closed_eq inside, kept, List.length_map, List.length_range]
  by_cases last : schedule = self.count
  · rw [if_pos last, last, layout.scheduled.empty _ (Nat.le_refl _) room]
  · rw [if_neg last]
    by_cases used : schedule < self.count
    · rw [if_pos used, List.getD_eq_getElem?_getD, List.getElem?_map, List.getElem?_range used,
        Option.map_some, Option.getD_some]
    · rw [if_neg used, at_, if_neg last]

/-- `after` is `before` with an appended sub-template; what else differs lies past the
old table and the old edges. -/
structure Extends (before after : Enrollment) (added : Subtemplate) : Prop where
  shape : after = { before with
    subtemplates := before.subtemplates ++ [added]
    matchOrder := before.setMatchOrder before.count before.count
    relations := after.relations
    groupEdges := after.groupEdges
    transformCount := after.transformCount }
  base : added.relationBase = UInt32.ofNat before.relations.length
  table : after.relations.take before.relations.length = before.relations
  edges : ∃ edges, after.groupEdges = before.groupEdges ++ edges ∧
    ∀ edge ∈ edges, before.relations.length ≤ edge

/-- Edges past the base are all taken off. -/
lemma dropEdges_append {base : Nat} {old new : List Nat} (below : ∀ edge ∈ old, edge < base)
    (above : ∀ edge ∈ new, base ≤ edge) : dropEdges base (old ++ new) = old := by
  induction new using List.reverseRecOn with
  | nil => rw [List.append_nil, dropEdges_of_below below]
  | append_singleton new last ih =>
    have past := above last (List.mem_append_right _ (List.mem_singleton.mpr rfl))
    rw [← List.append_assoc, dropEdges_concat, if_pos past]
    exact ih fun edge listed => above edge (List.mem_append_left _ listed)

/-- Dropping undoes such an extension. -/
lemma Extends.dropLast {added : Subtemplate} (h : self.Extends after added)
    (layout : Layout self) (inside : self.EdgesInside) (started : self.count ≠ 0)
    (room : self.count < enrollmentCapacity) : after.dropLast = .ok self := by
  have fifty : enrollmentCapacity = 50 := rfl
  have short := triangleBase_small layout.count
  have length := layout.relations
  have base : added.relationBase.toNat = self.relations.length := by
    rw [h.base, toNat_ofNat_of_lt (by omega)]
  have split : after.subtemplates = self.subtemplates ++ [added] := by rw [h.shape]
  have order : after.dropOrder self.count = self.matchOrder :=
    dropOrder_append layout room (by rw [h.shape])
  have long : self.relations.length ≤ after.relations.length := by
    have taken := congrArg List.length h.table
    rw [List.length_take] at taken
    omega
  have table : after.resizeRelations self.relations.length = self.relations := by
    rw [resizeRelations, h.table, Nat.sub_eq_zero_of_le long, List.replicate_zero,
      List.append_nil]
  obtain ⟨edges, grown, above⟩ := h.edges
  have kept : dropEdges self.relations.length after.groupEdges = self.groupEdges := by
    rw [grown, dropEdges_append inside.inside above]
  have nonempty : self.subtemplates.length ≠ 0 := started
  have counted : self.subtemplates.length = self.count := rfl
  rw [dropLast_concat split, dropped, base, table, kept, if_neg nonempty, if_neg nonempty, counted,
    order, ← layout.transformCount, h.shape]

/-- Joining writes at the anchor slot only. -/
lemma take_joinGroup {current candidate size : Nat}
    (past : size ≤ self.relationIndex current self.groupAnchor) :
    (self.joinGroup current candidate).relations.take size = self.relations.take size := by
  refine List.ext_getElem? fun index => ?_
  simp only [joinGroup, List.getElem?_take]
  split
  · rw [List.getElem?_modify_ne _ _ (by omega)]
  · rfl

lemma appendSample_groupAnchor (sample : Sample) (metricData : MetricData) (groupState : UInt32)
    (relations : List Relation) :
    (self.appendSample sample metricData groupState relations).groupAnchor = self.groupAnchor := rfl

lemma Outcome.extends {sample : Sample} {metricData : MetricData} {comparisons : List Comparison}
    (h : Outcome self sample metricData comparisons after) (layout : Layout self)
    (small : self.groupAnchor < enrollmentCapacity)
    (closed : self.formsGroup metricData comparisons = false) :
    ∃ added, self.Extends after added := by
  cases h with
  | alone lone closed =>
    exact ⟨self.newSubtemplate sample metricData 0, rfl, rfl, List.take_left, [],
      (List.append_nil _).symm, fun _ h => absurd h List.not_mem_nil⟩
  | joins candidate joined found =>
    have slot := joinSlot layout small sample metricData 1 (comparisons.map Comparison.relation)
    refine ⟨self.newSubtemplate sample metricData 1, rfl, rfl, ?_,
      [self.relations.length + self.groupAnchor], ?_, fun edge listed => ?_⟩
    · rw [take_joinGroup (by rw [appendSample_groupAnchor, slot]; exact Nat.le_add_right _ _)]
      exact List.take_left
    · rw [← slot]
      rfl
    · rw [List.mem_singleton.mp listed]
      exact Nat.le_add_right _ _
  | opens candidate formed found opened opened_eq =>
    rw [formed] at closed
    cases closed

/-- After the first group is formed every sub-template belongs to it. -/
lemma Outcome.opened_grouped {sample : Sample} {metricData : MetricData}
    {comparisons : List Comparison} (h : Outcome self sample metricData comparisons after)
    (formed : self.formsGroup metricData comparisons = true) :
    ∀ subtemplate ∈ after.subtemplates, subtemplate.groupState = 1 := by
  cases h with
  | alone lone closed =>
    rw [closed] at formed
    cases formed
  | joins candidate joined found =>
    have grouped : self.hasGroup = true := (Bool.and_eq_true_iff.mp joined).1
    simp [formsGroup, grouped] at formed
  | opens candidate _ found opened opened_eq =>
    subst opened_eq
    intro subtemplate listed
    rcases List.mem_append.mp listed with old | new
    · obtain ⟨before, -, rfl⟩ := List.mem_map.mp old
      rfl
    · rw [List.mem_singleton.mp new]

/-- Does this insertion form the first group? -/
def FormsFirstGroup (self : Enrollment) (sample : Sample) : Prop :=
  ∃ metricData, sample.metricData = some metricData ∧
    self.formsGroup metricData (self.subtemplates.map (compare sample metricData)) = true

end Enrollment

/-- Insertions only. -/
def Operation.Inserts (operation : Operation) : Prop :=
  ∃ sample, operation = .insertFirst sample ∨ operation = .insertNext sample

/-- Dropping undoes the last insertion unless that insertion formed the first group. -/
theorem drop_last_undoes_insert_next {e after : Enrollment} {sample : Sample}
    {result : EnrollmentResult} (h : Reachable (fun _ operation => operation.Inserts) e)
    (ok : e.insertNext sample = .ok (after, result)) :
    after.dropLast = .ok e ↔ ¬e.FormsFirstGroup sample := by
  have layout := layout_of_reachable h
  have keeps : Reachable (fun before operation => ¬before.DropsAnchor operation) e :=
    h.mono fun _ operation inserts dropped => by
      obtain ⟨sample, rfl | rfl⟩ := inserts <;> cases dropped.1
  have edges := Enrollment.edgesInside_of_reachable (Enrollment.joins_inside_of_reachable keeps)
  obtain ⟨metricData, given, started, room, -, -, -, rfl⟩ := Enrollment.insertNext_ok ok
  rw [layout.capacity] at room
  have outcome := Enrollment.insertCompared_outcome e sample metricData
    (e.subtemplates.map (Enrollment.compare sample metricData))
  constructor
  · rintro restored ⟨metricData', given', formed⟩
    cases given.symm.trans given'
    have grouped := outcome.opened_grouped formed
    obtain ⟨earlier, last, split, same⟩ := Enrollment.dropLast_ok restored
    have ungrouped : e.hasGroup = false := by
      simp only [Enrollment.formsGroup, Bool.and_eq_true, Bool.not_eq_true'] at formed
      exact formed.1
    -- The first old sub-template is in the group after the drop and was not before.
    obtain ⟨first, listed⟩ := List.exists_mem_of_ne_nil e.subtemplates fun empty =>
      started (by rw [Enrollment.count, empty, List.length_nil])
    have kept : first ∈ earlier := by
      rw [same] at listed
      exact listed
    have one := grouped first (by rw [split]; exact List.mem_append_left _ kept)
    have member : e.hasGroup = true :=
      List.any_eq_true.mpr ⟨first, listed, by rw [one]; rfl⟩
    rw [ungrouped] at member
    cases member
  · intro unformed
    have closed : e.formsGroup metricData
        (e.subtemplates.map (Enrollment.compare sample metricData)) = false := by
      by_contra formed
      exact unformed ⟨metricData, given, by simpa using formed⟩
    obtain ⟨added, extended⟩ := outcome.extends layout edges.1 closed
    exact extended.dropLast layout edges.2 started room

theorem drop_last_undoes_second :
    ∃ after result, gridGallery.insertNext (gridSample false 2) = .ok (after, result) ∧
      (after.dropLast = .ok gridGallery ↔ ¬gridGallery.FormsFirstGroup (gridSample false 2)) :=
  ⟨_, _, rfl, drop_last_undoes_insert_next
    (.step .start ⟨gridSample false 1, .inl rfl⟩ step_gridGallery) rfl⟩

/-- The second sample forms the first group with the first one, which keeps its flag. -/
theorem drop_last_keeps_first_group :
    ¬∀ e after sample result, Reachable (fun _ operation => operation.Inserts) e →
      e.insertNext sample = .ok (after, result) → after.dropLast = .ok e := by
  intro undoes
  have kept : ((gridGallery.insertGrids [(false, 1)] [(true, 1)]).dropLast.toOption.any
      fun dropped => dropped.groups != gridGallery.groups) = true := by decide +kernel
  obtain ⟨dropped, undone, differs⟩ := (Option.any_eq_true _ _).mp kept
  have apart : Enrollment.Apart ([(false, 1)] ++ [(true, 1)]) := ⟨by simp [IsMark], by simp⟩
  have succeeds := onGrids_gridGallery.insertNext (List.cons_ne_nil _ _) (by decide) apart
  rw [Enrollment.step] at succeeds
  obtain ⟨result, inserted⟩ := Enrollment.ok_of_toOption_fst succeeds
  have restored := undoes gridGallery _ _ result (.step .start ⟨_, .inl rfl⟩ step_gridGallery)
    inserted
  cases restored.symm.trans (Enrollment.ok_of_toOption undone)
  exact absurd rfl (bne_iff_ne.mp differs)

end GoodixSpi.Chicago
