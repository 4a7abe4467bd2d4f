import GoodixSpi.Lib.ParentForest
import GoodixSpi.Chicago.Enrollment.Layout
import GoodixSpi.Chicago.Enrollment.RelationMask

/-! The selected relations as a graph. Its strong part is a spanning forest of all strong
relations: the search contributes one edge for each node it discovers, and the bridges only
join nodes of different components, which no strong relation does. -/

namespace GoodixSpi.Chicago.Enrollment

variable (self : Enrollment)

/-- Every pair of sub-templates has the slot the triangular layout gives it. -/
def Triangular : Prop :=
  ∀ newer older, older < newer → newer < self.count →
    self.relationIndex newer older = triangleBase newer + older

/-- The strong relations of the table. -/
def strongGraph : SimpleGraph (Fin self.count) where
  Adj a b := self.strongRelation a b = true
  symm := ⟨fun a b strong => by rw [strongRelation_comm]; exact strong⟩
  loopless := ⟨fun a strong => by
    obtain ⟨relation, found, -⟩ := strongRelation_iff.mp strong
    rw [relationOf_eq, if_pos rfl] at found
    cases found⟩

/-- The strong relations that the mask selects. -/
def selectedStrongGraph : SimpleGraph (Fin self.count) where
  Adj a b := self.strongRelation a b = true ∧
    self.pairSlot (a, b) ∈ self.buildSerializedRelationMask.slots
  symm := ⟨fun a b chosen => by
    rw [strongRelation_comm, pairSlot, max_comm, min_comm]
    exact chosen⟩
  loopless := ⟨fun a chosen => self.strongGraph.loopless.irrefl a chosen.1⟩

/-- The parent of a sub-template in the forest of strong relations. -/
def forestParent (a : Fin self.count) : Option (Fin self.count) :=
  (self.forest.parent a).bind fun other => if h : other < self.count then some ⟨other, h⟩ else none

variable {self}

lemma forest_rooted : SearchForest.Rooted self.strongRelation self.count self.forest :=
  SearchForest.build_rooted

lemma forestParent_eq_some_iff {a b : Fin self.count} :
    self.forestParent a = some b ↔ self.forest.parent a = some b.val := by
  unfold forestParent
  cases found : self.forest.parent a with
  | none => simp
  | some other =>
    have inside : other < self.count := (forest_rooted a other found).2.1
    rw [Option.bind_some, dif_pos inside, Option.some.injEq, Option.some.injEq, Fin.ext_iff]

lemma forestParent_eq_none_iff {a : Fin self.count} :
    self.forestParent a = none ↔ self.forest.parent a = none := by
  constructor
  · intro orphan
    by_contra present
    obtain ⟨other, found⟩ := Option.ne_none_iff_exists'.mp present
    have inside : other < self.count := (forest_rooted a other found).2.1
    rw [forestParent_eq_some_iff (b := ⟨other, inside⟩) |>.mpr found] at orphan
    cases orphan
  · intro orphan
    rw [forestParent, orphan]
    rfl

lemma strong_symmetric : ∀ a b, a < self.count → b < self.count →
    self.strongRelation a b = self.strongRelation b a :=
  fun a b _ _ => strongRelation_comm a b

/-- Every sub-template has a root below the count. -/
lemma component_spec (a : Fin self.count) :
    ∃ root : Fin self.count, self.forest.component a = some root.val := by
  have seen := (SearchForest.build_closed strong_symmetric).1 a.val a.isLt
  obtain ⟨root, found⟩ := Option.isSome_iff_exists.mp seen
  exact ⟨⟨root, (SearchForest.build_named a.val root found).1⟩, found⟩

/-- The root of a sub-template's strong component. -/
def componentRoot (a : Fin self.count) : Fin self.count :=
  ⟨(self.forest.component a).getD 0, by
    obtain ⟨root, found⟩ := component_spec a
    rw [found]
    exact root.isLt⟩

lemma component_eq (a : Fin self.count) :
    self.forest.component a = some (componentRoot a).val := by
  obtain ⟨root, found⟩ := component_spec a
  simp only [componentRoot, found, Option.getD_some]

lemma forest_tree : ∃ rank, ParentForest.Rooted self.forestParent rank componentRoot := by
  obtain ⟨rank, falls⟩ := @SearchForest.build_ranked self.strongRelation self.count
  refine ⟨fun a => rank a, ?_, ?_, ?_⟩
  · exact fun child up parent => falls child up (forestParent_eq_some_iff.mp parent)
  · intro child up parent
    obtain ⟨-, -, -, -, root, left, right⟩ :=
      forest_rooted child up (forestParent_eq_some_iff.mp parent)
    rw [component_eq] at left right
    rw [← right, Option.some.injEq] at left
    exact Fin.ext left
  · intro top orphan
    exact Fin.ext (SearchForest.build_orphans (component_eq top)
      (forestParent_eq_none_iff.mp orphan))

lemma forest_edge {a b : Fin self.count} (parent : self.forestParent a = some b) :
    self.strongRelation a b = true ∧
      self.pairSlot (a, b) ∈ self.buildSerializedRelationMask.slots := by
  have found := forestParent_eq_some_iff.mp parent
  have strong := (forest_rooted a b found).2.2.2.1
  rw [strongRelation_comm] at strong
  obtain ⟨relation, here, -⟩ := strongRelation_iff.mp strong
  exact ⟨strong, selected_of_pair here (List.mem_append_left _
    (self.mem_forestPairs.mpr ⟨a.isLt, found⟩))⟩

/-- Strong relations stay inside a component. -/
lemma strong_component {a b : Nat} (ha : a < self.count) (hb : b < self.count)
    (strong : self.strongRelation a b = true) :
    self.forest.component a = self.forest.component b :=
  (SearchForest.build_closed strong_symmetric).2 a b ha hb strong

lemma strong_reachable_iff {a b : Fin self.count} :
    self.strongGraph.Reachable a b ↔ componentRoot a = componentRoot b := by
  obtain ⟨rank, tree⟩ := @forest_tree self
  constructor
  · rintro ⟨walk⟩
    induction walk with
    | nil => rfl
    | @cons u v w joined _ ih =>
      have same := strong_component u.isLt v.isLt joined
      rw [component_eq, component_eq, Option.some.injEq] at same
      exact (Fin.ext same).trans ih
  · intro same
    refine (tree.reachable_iff.mpr same).mono ?_
    intro u v joined
    rcases tree.adj_iff.mp joined with up | up
    · exact (forest_edge up).1
    · exact self.strongGraph.symm.symm _ _ (forest_edge up).1

/-- No pair that reconnects components is strong. -/
lemma reconnected_weak {pair : Nat × Nat} (chosen : pair ∈ self.reconnected) :
    pair.1 < self.count ∧ pair.2 < self.count ∧ pair.1 ≠ pair.2 ∧
      self.strongRelation pair.1 pair.2 = false ∧ self.usableRelation pair.1 pair.2 = true := by
  unfold reconnected at chosen
  cases anchored : self.firstGrouped with
  | none =>
    rw [anchored] at chosen
    cases chosen
  | some anchor =>
    rw [anchored] at chosen
    obtain ⟨left, right, usable⟩ := Bridges.run_usable chosen
    have apart := Bridges.run_apart chosen
    refine ⟨left, right, fun same => apart (by rw [same]), ?_, usable⟩
    by_contra strong
    exact apart (strong_component left right (by simpa using strong))

/-! ### One slot for each pair -/

/-- Every operation keeps the layout triangular. -/
lemma triangular_of_layout (layout : Layout self) : self.Triangular := by
  intro newer older earlier inside
  have base := layout.relationBase_toNat inside
  have small := triangleBase_small (inside.le.trans layout.count)
  have few : self.count ≤ 50 := layout.count
  rw [relationIndex, UInt32.toNat_add, base, toNat_ofNat_of_lt (by omega)]
  exact Nat.mod_eq_of_lt (by omega)

namespace Triangular

lemma pairSlot_eq (h : self.Triangular) {a b : Nat} (ha : a < self.count) (hb : b < self.count)
    (differ : a ≠ b) : self.pairSlot (a, b) = triangleBase (max a b) + min a b :=
  h _ _ (by omega) (by omega)

/-- Two pairs of sub-templates with the same slot are the same pair. -/
lemma pairSlot_injective (h : self.Triangular) {a b c d : Nat} (ha : a < self.count)
    (hb : b < self.count) (hc : c < self.count) (hd : d < self.count) (ab : a ≠ b) (cd : c ≠ d)
    (same : self.pairSlot (a, b) = self.pairSlot (c, d)) : a = c ∧ b = d ∨ a = d ∧ b = c := by
  rw [h.pairSlot_eq ha hb ab, h.pairSlot_eq hc hd cd] at same
  have ends := triangleBase_pair_injective (by omega) (by omega) same
  omega

variable (h : self.Triangular)
include h

/-- The pair whose slot is selected was chosen by the search or as a bridge. -/
lemma chosen_of_slot {a b : Fin self.count} (differ : a ≠ b)
    (selected : self.pairSlot (a, b) ∈ self.buildSerializedRelationMask.slots) :
    self.forestParent a = some b ∨ self.forestParent b = some a ∨
      (a.val, b.val) ∈ self.reconnected ∨ (b.val, a.val) ∈ self.reconnected := by
  obtain ⟨-, ⟨c, d⟩, chosen, slot⟩ := self.mem_mask_slots.mp selected
  have apart : a.val ≠ b.val := fun same => differ (Fin.ext same)
  rcases List.mem_append.mp chosen with forest | bridge
  · obtain ⟨-, parent⟩ := self.mem_forestPairs.mp forest
    obtain ⟨hc, hd, cd, -⟩ := forest_rooted c d parent
    rcases h.pairSlot_injective hc hd a.isLt b.isLt cd apart slot with ⟨rfl, rfl⟩ | ⟨rfl, rfl⟩
    · exact .inl (forestParent_eq_some_iff.mpr parent)
    · exact .inr (.inl (forestParent_eq_some_iff.mpr parent))
  · obtain ⟨hc, hd, cd, -⟩ := reconnected_weak bridge
    rcases h.pairSlot_injective hc hd a.isLt b.isLt cd apart slot with ⟨rfl, rfl⟩ | ⟨rfl, rfl⟩
    · exact .inr (.inr (.inl bridge))
    · exact .inr (.inr (.inr bridge))

/-- The selected strong relations are the edges of the search forest. -/
lemma selectedStrongGraph_eq : self.selectedStrongGraph = ParentForest.graph self.forestParent := by
  obtain ⟨rank, tree⟩ := @forest_tree self
  ext a b
  rw [tree.adj_iff]
  constructor
  · rintro ⟨strong, selected⟩
    have differ : a ≠ b := fun same => self.strongGraph.loopless.irrefl a (by
      rw [← same] at strong
      exact strong)
    rcases h.chosen_of_slot differ selected with up | down | bridge | bridge
    · exact .inl up
    · exact .inr down
    · have weak := (reconnected_weak bridge).2.2.2.1
      rw [strong] at weak
      cases weak
    · have weak := (reconnected_weak bridge).2.2.2.1
      rw [strongRelation_comm, strong] at weak
      cases weak
  · rintro (up | down)
    · exact forest_edge up
    · exact self.selectedStrongGraph.symm.symm _ _ (forest_edge down)

end Triangular

/-- A selected slot belongs to a pair whose relation is not a sentinel. -/
lemma selected_pair {slot : Nat} (selected : slot ∈ self.buildSerializedRelationMask.slots) :
    ∃ a b : Fin self.count, a ≠ b ∧ self.pairSlot (a, b) = slot ∧
      self.usableRelation a b = true := by
  obtain ⟨-, ⟨c, d⟩, chosen, same⟩ := self.mem_mask_slots.mp selected
  rcases List.mem_append.mp chosen with forest | bridge
  · obtain ⟨-, parent⟩ := self.mem_forestPairs.mp forest
    obtain ⟨hc, hd, differ, strong, -⟩ := forest_rooted c d parent
    rw [strongRelation_comm] at strong
    obtain ⟨relation, here, large⟩ := strongRelation_iff.mp strong
    exact ⟨⟨c, hc⟩, ⟨d, hd⟩, fun equal => differ (congrArg Fin.val equal), same,
      usableRelation_iff.mpr ⟨relation, here, by omega⟩⟩
  · obtain ⟨hc, hd, differ, -, usable⟩ := reconnected_weak bridge
    exact ⟨⟨c, hc⟩, ⟨d, hd⟩, fun equal => differ (congrArg Fin.val equal), same, usable⟩

lemma relationOf_slot {a b : Fin self.count} (differ : a ≠ b) :
    self.relationOf a b = self.relations[self.pairSlot (a, b)]? := by
  rw [relationOf_eq, if_neg fun same => differ (Fin.ext same)]

/-- No selected relation is a sentinel. -/
lemma selected_nonneg {slot : Nat} (selected : slot ∈ self.buildSerializedRelationMask.slots)
    {relation : Relation} (found : self.relations[slot]? = some relation) :
    0 ≤ relation.inlierCount.toInt := by
  obtain ⟨a, b, differ, rfl, usable⟩ := selected_pair selected
  obtain ⟨relation', here, nonneg⟩ := usableRelation_iff.mp usable
  rw [relationOf_slot differ, found, Option.some.injEq] at here
  rw [here]
  exact nonneg

/-- Every strong relation that is selected is an edge. -/
lemma selected_edge {slot : Nat} (selected : slot ∈ self.buildSerializedRelationMask.slots)
    {relation : Relation} (found : self.relations[slot]? = some relation)
    (strong : 2 < relation.inlierCount.toInt) :
    ∃ a b, self.selectedStrongGraph.Adj a b ∧ self.pairSlot (a, b) = slot := by
  obtain ⟨a, b, differ, same, -⟩ := selected_pair selected
  refine ⟨a, b, ⟨strongRelation_iff.mpr ⟨relation, ?_, strong⟩, by rw [same]; exact selected⟩, same⟩
  rw [relationOf_slot differ, same, found]

/-- The selected strong relations are a spanning forest of the strong relations, and nothing
that is selected is negative. -/
theorem serialized_strong_forest (triangular : self.Triangular) :
    self.selectedStrongGraph.IsAcyclic ∧
    Nat.card self.selectedStrongGraph.edgeSet + Nat.card self.strongGraph.ConnectedComponent =
      self.count ∧
    (∀ a b, self.selectedStrongGraph.Reachable a b ↔ self.strongGraph.Reachable a b) ∧
    ∀ slot ∈ self.buildSerializedRelationMask.slots, ∀ relation,
      self.relations[slot]? = some relation →
        0 ≤ relation.inlierCount.toInt ∧
        (2 < relation.inlierCount.toInt →
          ∃ a b, self.selectedStrongGraph.Adj a b ∧ self.pairSlot (a, b) = slot) := by
  obtain ⟨rank, tree⟩ := @forest_tree self
  have reachable : ∀ a b, (ParentForest.graph self.forestParent).Reachable a b ↔
      self.strongGraph.Reachable a b := fun a b => by
    rw [tree.reachable_iff, strong_reachable_iff]
  refine ⟨?_, ?_, ?_, ?_⟩
  · rw [triangular.selectedStrongGraph_eq]
    exact tree.isAcyclic
  · rw [triangular.selectedStrongGraph_eq, ← ParentForest.card_components_congr reachable,
      tree.card_edges_add_components, Nat.card_fin]
  · rw [triangular.selectedStrongGraph_eq]
    exact reachable
  · intro slot selected relation found
    exact ⟨selected_nonneg selected found, selected_edge selected found⟩

/-- Three sub-templates, each joined to both others. -/
def threeStrong : Enrollment :=
  { Enrollment.new with
    subtemplates := (List.range 3).map fun index =>
      { Subtemplate.fresh [] 0 80 90 none index with
        relationBase := UInt32.ofNat (triangleBase index) }
    relations := List.replicate 4 ⟨6, identityGroupTransform⟩ }

theorem serialized_strong_forest_three :
    threeStrong.Triangular ∧ threeStrong.selectedStrongGraph.IsAcyclic ∧
    Nat.card threeStrong.selectedStrongGraph.edgeSet +
      Nat.card threeStrong.strongGraph.ConnectedComponent = 3 := by
  have triangular : threeStrong.Triangular := by
    have slots : ∀ newer < 3, ∀ older < newer,
        threeStrong.relationIndex newer older = triangleBase newer + older := by decide
    exact fun newer older earlier inside => slots newer inside older earlier
  obtain ⟨acyclic, edges, -⟩ := serialized_strong_forest triangular
  exact ⟨triangular, acyclic, edges⟩

end GoodixSpi.Chicago.Enrollment
