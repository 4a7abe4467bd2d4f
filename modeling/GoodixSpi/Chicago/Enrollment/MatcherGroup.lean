import GoodixSpi.Chicago.Enrollment.CapacitySafety
import GoodixSpi.Chicago.Enrollment.Connectivity
import Mathlib.Combinatorics.SimpleGraph.Connectivity.Connected

/-! The group that a study leaves: the largest component of the strong relations, and of several
the one whose lowest sub-template is the lowest. The root of a component is its lowest node and
the size that the search counts is the number of its nodes. -/

namespace GoodixSpi.Chicago.Enrollment

open SearchForest

variable {self after : Enrollment}

/-! ### The largest root -/

/-- The choice of the second loop: no root is larger, and no earlier one as large. -/
structure Largest (size : Nat → Nat) (count : Nat) (best : Option Nat × Nat) : Prop where
  bound : ∀ root < count, size root ≤ best.2
  choice : best = (none, 0) ∨
    ∃ root < count, best = (some root, size root) ∧ ∀ other < root, size other < size root

lemma largestRoot_largest (size : Nat → Nat) (count : Nat) :
    Largest size count (largestRoot size count) := by
  induction count with
  | zero => exact ⟨fun root inside => absurd inside (Nat.not_lt_zero root), .inl rfl⟩
  | succ count ih =>
    have next : largestRoot size (count + 1) =
        if size count > (largestRoot size count).2 then (some count, size count)
        else largestRoot size count := by
      rw [largestRoot, List.range_succ, List.foldl_append]
      rfl
    rw [next]
    split
    · rename_i larger
      have earlier : ∀ root < count, size root < size count :=
        fun root inside => (ih.bound root inside).trans_lt larger
      constructor
      · intro root inside
        rcases Nat.lt_succ_iff_lt_or_eq.mp inside with below | rfl
        · exact (earlier root below).le
        · exact le_rfl
      · exact .inr ⟨count, Nat.lt_succ_self count, rfl, earlier⟩
    · rename_i smaller
      constructor
      · intro root inside
        rcases Nat.lt_succ_iff_lt_or_eq.mp inside with below | rfl
        · exact ih.bound root below
        · exact Nat.not_lt.mp smaller
      · rcases ih.choice with none | ⟨root, inside, chosen, first⟩
        · exact .inl none
        · exact .inr ⟨root, inside.trans (Nat.lt_succ_self count), chosen, first⟩

/-! ### Strong components -/

/-- How many sub-templates a strong component has. -/
noncomputable def componentSize (e : Enrollment) (a : Fin e.count) : Nat :=
  (e.strongGraph.connectedComponentMk a).supp.ncard

lemma componentRoot_le (a : Fin self.count) : componentRoot a ≤ a :=
  build_lowest (component_eq a)

lemma componentRoot_idem (a : Fin self.count) :
    componentRoot (componentRoot a) = componentRoot a := by
  have named := (build_named a.val (componentRoot a).val (component_eq a)).2
  have own := component_eq (componentRoot a)
  rw [forest, named, Option.some.injEq] at own
  exact (Fin.ext own).symm

lemma reachable_componentRoot (a : Fin self.count) :
    self.strongGraph.Reachable (componentRoot a) a := by
  rw [strong_reachable_iff]
  exact componentRoot_idem a

lemma componentSize_eq (a : Fin self.count) :
    self.componentSize a = self.forest.size (componentRoot a) := by
  have nodes : (self.strongGraph.connectedComponentMk a).supp =
      Set.preimage Fin.val (members self.count self.forest (componentRoot a) : Set Nat) := by
    ext b
    rw [SimpleGraph.ConnectedComponent.mem_supp_iff, SimpleGraph.ConnectedComponent.eq,
      strong_reachable_iff, Set.mem_preimage, Finset.mem_coe, mem_members, component_eq,
      Option.some.injEq, Fin.ext_iff]
    exact ⟨fun same => ⟨b.isLt, same⟩, fun both => both.2⟩
  have within : (members self.count self.forest (componentRoot a) : Set Nat) ⊆
      Set.range (Fin.val : Fin self.count → Nat) := by
    intro c listed
    exact ⟨⟨c, (mem_members.mp (Finset.mem_coe.mp listed)).1⟩, rfl⟩
  rw [componentSize, nodes, Set.ncard_preimage_of_injective_subset_range Fin.val_injective within,
    Set.ncard_coe_finset, forest, build_sizes]

lemma componentSize_of_adj {a b : Fin self.count} (strong : self.strongGraph.Adj a b) :
    1 < self.componentSize a := by
  refine (Set.one_lt_ncard (Set.toFinite _)).mpr ⟨a, rfl, b, ?_, strong.ne⟩
  exact SimpleGraph.ConnectedComponent.sound strong.reachable.symm

lemma adj_of_componentSize {a : Fin self.count} (several : 1 < self.componentSize a) :
    ∃ b, self.strongGraph.Adj a b := by
  obtain ⟨b, listed, other⟩ := Set.exists_ne_of_one_lt_ncard several a
  obtain ⟨walk⟩ := SimpleGraph.ConnectedComponent.exact (Eq.symm listed)
  cases walk with
  | nil => exact (other rfl).elim
  | cons strong _ => exact ⟨_, strong⟩

/-! ### The rebuilt group -/

/-- Rebuilding the group leaves the forest of strong relations alone. -/
lemma rebuild_forest (self : Enrollment) :
    self.rebuildMatcherGroup.count = self.count ∧
      self.rebuildMatcherGroup.forest = self.forest := by
  have counted : self.rebuildMatcherGroup.count = self.count := by
    have length := congrArg List.length (@rebuildMatcherGroup_cores self)
    simpa [Enrollment.count] using length
  have bases : self.rebuildMatcherGroup.subtemplates.map Subtemplate.relationBase =
      self.subtemplates.map Subtemplate.relationBase := by
    have mapped := congrArg (List.map Subtemplate.relationBase)
      (@rebuildMatcherGroup_cores self)
    have through : Subtemplate.relationBase ∘ Subtemplate.core = Subtemplate.relationBase := rfl
    simpa only [List.map_map, through] using mapped
  have base : ∀ index, self.rebuildMatcherGroup.relationBase index = self.relationBase index := by
    intro index
    have here := congrArg (·[index]?) bases
    simp only [List.getElem?_map] at here
    rw [relationBase, relationBase, here]
  have table := (rebuildMatcherGroup_frame self).1
  have strong : self.rebuildMatcherGroup.strongRelation = self.strongRelation := by
    funext a b
    unfold strongRelation relationOf relationBetweenSubtemplates relationIndex
    rw [base, table]
  exact ⟨counted, by rw [forest, forest, strong, counted]⟩

/-- What a rebuilt group is. -/
structure Grouped (e : Enrollment) : Prop where
  none : (∀ a b, ¬e.strongGraph.Adj a b) →
    e.hasGroupAnchor = false ∧ e.matcherValueC = 0 ∧ ∀ i, e.groupState i ≠ 1
  largest : ∀ a b, e.strongGraph.Adj a b → ∃ anchor : Fin e.count,
    e.hasGroupAnchor = true ∧ e.matcherValueC = 1 ∧ e.groupAnchor = anchor ∧
    (∀ i : Fin e.count, e.groupState i = 1 ↔ e.strongGraph.Reachable anchor i) ∧
    (∀ i, e.strongGraph.Reachable anchor i → anchor ≤ i) ∧
    (∀ other, e.componentSize other ≤ e.componentSize anchor) ∧
    ∀ other, e.componentSize other = e.componentSize anchor → anchor ≤ other

lemma rebuild_none {n : Nat} (few : n ≤ 1) {root : Option Nat}
    (best : largestRoot self.forest.size self.count = (root, n)) :
    self.rebuildMatcherGroup.hasGroupAnchor = false ∧ self.rebuildMatcherGroup.matcherValueC = 0 ∧
      ∀ i, self.rebuildMatcherGroup.groupState i ≠ 1 := by
  have shape : self.rebuildMatcherGroup = { self with
      matcherValueC := 0
      hasGroupAnchor := false
      subtemplates := self.subtemplates.map fun subtemplate =>
        { subtemplate with groupState := 0 } } := by
    rw [rebuildMatcherGroup, best]
    match root, n, few with
    | none, _, _ => rfl
    | some _, 0, _ => rfl
    | some _, 1, _ => rfl
  rw [shape]
  refine ⟨rfl, rfl, fun i => ?_⟩
  rw [groupState, List.getElem?_map]
  cases self.subtemplates[i]? with
  | none => decide
  | some _ => exact fun one => absurd one (by decide : (0 : UInt32) ≠ 1)

lemma rebuild_some {n root : Nat} (several : 1 < n)
    (best : largestRoot self.forest.size self.count = (some root, n)) :
    self.rebuildMatcherGroup.hasGroupAnchor = true ∧ self.rebuildMatcherGroup.matcherValueC = 1 ∧
      self.rebuildMatcherGroup.groupAnchor = root ∧
      ∀ i < self.count,
        self.rebuildMatcherGroup.groupState i = 1 ↔ self.forest.component i = some root := by
  obtain ⟨m, rfl⟩ : ∃ m, n = m + 2 := ⟨n - 2, by omega⟩
  have shape : self.rebuildMatcherGroup = { self with
      matcherValueC := 1
      groupAnchor := root
      hasGroupAnchor := true
      subtemplates := (self.subtemplates.map fun subtemplate =>
        { subtemplate with groupState := 0 }).mapIdx fun index subtemplate =>
          if self.forest.component index = some root then { subtemplate with groupState := 1 }
          else subtemplate } := by
    rw [rebuildMatcherGroup, best]
  rw [shape]
  refine ⟨rfl, rfl, rfl, fun i inside => ?_⟩
  have live : i < self.subtemplates.length := inside
  rw [groupState, List.getElem?_mapIdx, List.getElem?_map, List.getElem?_eq_getElem live]
  by_cases member : self.forest.component i = some root
  · simp [member]
  · simp [member]

lemma rebuildMatcherGroup_grouped (self : Enrollment) : self.rebuildMatcherGroup.Grouped := by
  obtain ⟨counted, forested⟩ := rebuild_forest self
  have largest := largestRoot_largest self.forest.size self.count
  rcases best : largestRoot self.forest.size self.count with ⟨chosen, n⟩
  rw [best, ← counted, ← forested] at largest
  have sized : ∀ a, self.rebuildMatcherGroup.componentSize a ≤ n := by
    intro a
    rw [componentSize_eq]
    exact largest.bound _ (componentRoot a).isLt
  by_cases several : 1 < n
  · rcases largest.choice with none | ⟨root, inside, choice, first⟩
    · cases none
      exact (Nat.not_lt_zero 1 several).elim
    cases choice
    obtain ⟨flag, value, anchor, members⟩ := rebuild_some several best
    rw [← counted, ← forested] at members
    set e := self.rebuildMatcherGroup
    have own : e.forest.component root = some root :=
      (@build_counts e.strongRelation e.count root (Nat.zero_lt_of_lt several)).2
    have rooted : componentRoot (⟨root, inside⟩ : Fin e.count) = ⟨root, inside⟩ := by
      have found := component_eq (⟨root, inside⟩ : Fin e.count)
      rw [own, Option.some.injEq] at found
      exact (Fin.ext found).symm
    have reached : ∀ i, e.strongGraph.Reachable ⟨root, inside⟩ i ↔
        componentRoot i = ⟨root, inside⟩ := by
      intro i
      rw [strong_reachable_iff, rooted]
      exact eq_comm
    have size : e.componentSize ⟨root, inside⟩ = e.forest.size root := by
      rw [componentSize_eq, rooted]
    constructor
    · intro apart
      obtain ⟨b, strong⟩ := adj_of_componentSize (size.symm ▸ several)
      exact (apart _ b strong).elim
    · intro a b _
      refine ⟨⟨root, inside⟩, flag, value, anchor, ?_, ?_, ?_, ?_⟩
      · intro i
        rw [members i i.isLt, reached, component_eq, Option.some.injEq, Fin.ext_iff]
      · intro i path
        exact (reached i).mp path ▸ componentRoot_le i
      · intro other
        rw [size]
        exact sized other
      · intro other equal
        refine le_trans ?_ (componentRoot_le other)
        by_contra earlier
        rw [size, componentSize_eq] at equal
        exact absurd equal (first _ (Fin.not_le.mp earlier)).ne
  · have apart : ∀ a b, ¬self.rebuildMatcherGroup.strongGraph.Adj a b :=
      fun a b strong => several ((componentSize_of_adj strong).trans_le (sized a))
    exact ⟨fun _ => rebuild_none (Nat.not_lt.mp several) best,
      fun a b strong => (apart a b strong).elim⟩

/-! ### The appended study -/

/-- The table stays triangular. -/
lemma appendStudy_triangular (triangular : self.Triangular)
    (length : self.relations.length = triangleBase self.count)
    (small : self.count ≤ enrollmentCapacity) {probe : SubtemplateView}
    {selectedIndex appended : Nat} {relations : List Relation}
    (appends : self.appendStudy probe selectedIndex relations = .ok (after, appended)) :
    after.Triangular := by
  obtain ⟨metricData, source, grows⟩ := appendStudy_grows appends
  have bases := grows.bases
  have counted := grows.count
  have fits := triangleBase_small small
  have few : enrollmentCapacity = 50 := rfl
  have base : ∀ index, after.relationBase index =
      ((self.subtemplates.map Subtemplate.relationBase ++
        [UInt32.ofNat self.relations.length])[index]?).getD 0 := by
    intro index
    have here := congrArg (·[index]?) bases
    simp only [List.getElem?_map] at here
    rw [relationBase, here]
    rfl
  intro newer older below inside
  rcases Nat.lt_succ_iff_lt_or_eq.mp (counted ▸ inside) with earlier | rfl
  · have live : newer < (self.subtemplates.map Subtemplate.relationBase).length := by
      rw [List.length_map]
      exact earlier
    rw [relationIndex, base, List.getElem?_append_left live, List.getElem?_map]
    exact triangular newer older below earlier
  · have last : (self.subtemplates.map Subtemplate.relationBase).length = self.count :=
      List.length_map _
    rw [relationIndex, base, List.getElem?_append_right last.le, last, Nat.sub_self, length,
      UInt32.toNat_add]
    have block : (UInt32.ofNat (triangleBase self.count)).toNat = triangleBase self.count :=
      toNat_ofNat_of_lt (by omega)
    have offset : (UInt32.ofNat older).toNat = older := toNat_ofNat_of_lt (by omega)
    show ((UInt32.ofNat (triangleBase self.count)).toNat + (UInt32.ofNat older).toNat) % 2 ^ 32 = _
    rw [block, offset]
    exact Nat.mod_eq_of_lt (by omega)

/-- A strong relation in the triangular table. -/
lemma adj_iff_table (triangular : self.Triangular) (a b : Fin self.count) :
    self.strongGraph.Adj a b ↔ a ≠ b ∧ ∃ relation,
      self.relations[triangleBase (max a.val b.val) + min a.val b.val]? = some relation ∧
        2 < relation.inlierCount.toInt := by
  show self.strongRelation a b = true ↔ _
  rw [strongRelation_iff]
  by_cases same : a = b
  · rw [relationOf_eq, if_pos (congrArg Fin.val same)]
    simp [same]
  · rw [relationOf_slot same, triangular.pairSlot_eq a.isLt b.isLt fun equal => same (Fin.ext equal)]
    exact ⟨fun found => ⟨same, found⟩, fun found => found.2⟩

/-- Appending a study marks the largest component of the strong relations in the grown table,
if there is a strong relation at all. -/
theorem append_study_marks_largest (triangular : self.Triangular)
    (length : self.relations.length = triangleBase self.count)
    (small : self.count ≤ enrollmentCapacity) {probe : SubtemplateView}
    {selectedIndex appended : Nat} {relations : List Relation}
    (appends : self.appendStudy probe selectedIndex relations = .ok (after, appended)) :
    after.relations = self.relations ++ relations ∧ after.count = self.count + 1 ∧
    (∀ a b : Fin after.count, after.strongGraph.Adj a b ↔ a ≠ b ∧ ∃ relation,
      after.relations[triangleBase (max a.val b.val) + min a.val b.val]? = some relation ∧
        2 < relation.inlierCount.toInt) ∧
    ((∀ a b, ¬after.strongGraph.Adj a b) →
      after.hasGroupAnchor = false ∧ after.matcherValueC = 0 ∧ ∀ i, after.groupState i ≠ 1) ∧
    ∀ a b, after.strongGraph.Adj a b → ∃ anchor : Fin after.count,
      after.hasGroupAnchor = true ∧ after.matcherValueC = 1 ∧ after.groupAnchor = anchor ∧
      (∀ i : Fin after.count, after.groupState i = 1 ↔ after.strongGraph.Reachable anchor i) ∧
      (∀ i, after.strongGraph.Reachable anchor i → anchor ≤ i) ∧
      (∀ other, after.componentSize other ≤ after.componentSize anchor) ∧
      ∀ other, after.componentSize other = after.componentSize anchor → anchor ≤ other := by
  have table := adj_iff_table (appendStudy_triangular triangular length small appends)
  obtain ⟨metricData, source, grows⟩ := appendStudy_grows appends
  obtain ⟨_, _, -, -, -, -, -, -, -, rebuilt⟩ := appendStudy_ok appends
  have grouped : after.Grouped := rebuilt ▸ rebuildMatcherGroup_grouped _
  refine ⟨?_, grows.count, table, grouped.none, grouped.largest⟩
  rw [rebuilt, (rebuildMatcherGroup_frame _).1]
  rfl

/-- Two sub-templates that nothing joins. -/
def twoApart : Enrollment :=
  { threeStrong with
    subtemplates := threeStrong.subtemplates.take 2
    relations := [sentinelRelation, sentinelRelation] }

/-- The study is joined to the second of the two. -/
theorem append_study_marks_largest_joined :
    ∃ after, twoApart.appendStudy emptyProbe 0 [sentinelRelation, ⟨6, identityGroupTransform⟩] =
        .ok (after, 2) ∧ after.hasGroupAnchor = true ∧ after.matcherValueC = 1 := by
  have triangular : twoApart.Triangular := by
    have slots : ∀ newer < 2, ∀ older < newer,
        twoApart.relationIndex newer older = triangleBase newer + older := by decide
    exact fun newer older below inside => slots newer inside older below
  obtain ⟨after, appends⟩ : ∃ after, twoApart.appendStudy emptyProbe 0
      [sentinelRelation, ⟨6, identityGroupTransform⟩] = .ok (after, 2) := ⟨_, rfl⟩
  obtain ⟨table, counted, adj, -, largest⟩ :=
    append_study_marks_largest triangular rfl (by decide) appends
  have three : after.count = 3 := counted
  have strong : after.strongGraph.Adj ⟨1, by omega⟩ ⟨2, by omega⟩ := by
    rw [adj, table]
    exact ⟨by simp, ⟨6, identityGroupTransform⟩, by simp [twoApart, triangleBase], by decide⟩
  obtain ⟨anchor, flag, value, -⟩ := largest _ _ strong
  exact ⟨after, appends, flag, value⟩

end GoodixSpi.Chicago.Enrollment
