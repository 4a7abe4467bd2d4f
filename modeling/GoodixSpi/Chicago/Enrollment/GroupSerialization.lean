import GoodixSpi.Chicago.Enrollment.GroupConnectivity
import GoodixSpi.Chicago.Enrollment.Rollback

/-! The group over runs of insertions. The sample that opens the group turns the missing
relations it bridges into relations without inliers, which join nothing new; each later
member hangs on the anchor. -/

namespace GoodixSpi.Chicago

namespace Enrollment

variable {self after : Enrollment}

/-- It is enough to look at a pair from its newer end. -/
lemma HangsOnAnchor.of_ordered (first : self.hasGroupAnchor = true → self.grouped 0 = true)
    (joined : ∀ newer older, older < newer → newer < self.count →
      self.usableRelation newer older = true →
      self.forest.component newer = self.forest.component older ∨
        self.hasGroupAnchor = true ∧ self.grouped newer = true ∧ self.grouped older = true ∧
          self.groupAnchor = older) : self.HangsOnAnchor where
  first := first
  joined a b ha hb usable := by
    rcases Nat.lt_or_gt_of_ne (usable_ne usable) with below | above
    · rw [usable_comm] at usable
      rcases joined b a below hb usable with same | ⟨flag, right, left, names⟩
      · exact .inl same.symm
      · exact .inr ⟨flag, left, right, by rw [Nat.min_eq_left below.le, names]⟩
    · rcases joined a b above ha usable with same | ⟨flag, left, right, names⟩
      · exact .inl same
      · exact .inr ⟨flag, left, right, by rw [Nat.min_eq_right above.le, names]⟩

/-- A relation of two old sub-templates stands where it stood. -/
lemma relationOf_kept (layout : Layout self) (grown : Layout after)
    (counted : after.count = self.count + 1)
    (old : ∀ slot < self.relations.length, after.relations[slot]? = self.relations[slot]?)
    {a b : Nat} (ha : a < self.count) (hb : b < self.count) :
    after.relationOf a b = self.relationOf a b := by
  by_cases differ : a = b
  · rw [relationOf_eq, relationOf_eq, if_pos differ, if_pos differ]
  · rw [relationOf_layout grown (by omega) (by omega) differ, relationOf_layout layout ha hb differ]
    exact old _ (layout.slot_inside (by omega) (by omega))

/-- One more sub-template whose relations are strong, or hang on the anchor. -/
lemma HangsOnAnchor.extend (h : self.HangsOnAnchor) (layout : Layout self) (grown : Layout after)
    (counted : after.count = self.count + 1)
    (old : ∀ slot < self.relations.length, after.relations[slot]? = self.relations[slot]?)
    (new : ∀ older < self.count, after.usableRelation self.count older = true →
      after.strongRelation self.count older = true ∨
        after.hasGroupAnchor = true ∧ after.grouped self.count = true ∧
          after.grouped older = true ∧ after.groupAnchor = older)
    (flag : after.hasGroupAnchor = self.hasGroupAnchor)
    (anchor : after.groupAnchor = self.groupAnchor)
    (groups : ∀ index < self.count, after.grouped index = self.grouped index) :
    after.HangsOnAnchor := by
  have kept : ∀ a b, a < self.count → b < self.count → after.relationOf a b = self.relationOf a b :=
    fun a b ha hb => relationOf_kept layout grown counted old ha hb
  refine .of_ordered (fun anchored => ?_) fun newer older earlier inside usable => ?_
  · have grouped := h.first (flag ▸ anchored)
    rw [groups 0 (Nat.zero_lt_of_lt (grouped_lt grouped)), grouped]
  · rcases Nat.lt_or_ge newer self.count with before | last
    · rw [usableRelation, kept newer older before (by omega)] at usable
      rcases h.joined newer older before (by omega) usable with same | ⟨has, left, right, least⟩
      · refine .inl (component_grows (by omega) ?_ before (by omega) same)
        intro a b ha hb strong
        rw [strongRelation, kept a b ha hb]
        exact strong
      · rw [Nat.min_eq_right earlier.le] at least
        exact .inr ⟨by rw [flag, has], by rw [groups newer before, left],
          by rw [groups older (by omega), right], by rw [anchor, least]⟩
    · obtain rfl : newer = self.count := by omega
      rcases new older earlier usable with strong | hangs
      · exact .inl (strong_component inside (by omega) strong)
      · exact .inr hangs

/-! ### The three outcomes of an insertion -/

section Outcomes

variable {sample : Sample} {metricData : MetricData}

/-- The comparisons of an insertion, one for each sub-template. -/
def comparisonsOf (self : Enrollment) (sample : Sample) (metricData : MetricData) :
    List Comparison :=
  self.subtemplates.map (compare sample metricData)

lemma block_inliers {relation : Relation} {slot : Nat}
    (found : ((self.comparisonsOf sample metricData).map Comparison.relation)[slot]? =
      some relation) :
    relation.inlierCount.toInt < 0 ∨ 6 ≤ relation.inlierCount.toInt := by
  have listed := List.mem_of_getElem? found
  obtain ⟨comparison, here, rfl⟩ := List.mem_map.mp listed
  obtain ⟨old, -, rfl⟩ := List.mem_map.mp here
  exact compare_inliers sample metricData old

/-- Where the block of the new sample stands. -/
lemma getElem?_block (layout : Layout self) {block : List Relation} {older : Nat} :
    (self.relations ++ block)[triangleBase self.count + older]? = block[older]? := by
  rw [← layout.relations, List.getElem?_append_right (Nat.le_add_right _ _), Nat.add_sub_cancel_left]

/-- A relation of the new sample that stands as it was built is strong if it is usable. -/
lemma strong_of_built (layout : Layout self) (grown : Layout after)
    (counted : after.count = self.count + 1) {older : Nat} (earlier : older < self.count)
    (built : after.relations[triangleBase self.count + older]? =
      (self.relations ++ (self.comparisonsOf sample metricData).map Comparison.relation)[
        triangleBase self.count + older]?)
    (usable : after.usableRelation self.count older = true) :
    after.strongRelation self.count older = true := by
  obtain ⟨relation, found, nonneg⟩ := usableRelation_iff.mp usable
  refine strongRelation_iff.mpr ⟨relation, found, ?_⟩
  rw [relationOf_layout grown (by omega) (by omega) (by omega), Nat.max_eq_left earlier.le,
    Nat.min_eq_right earlier.le, built, getElem?_block layout] at found
  rcases block_inliers found with negative | enough
  · omega
  · omega

lemma grouped_append {state : UInt32} (added : after.groups = self.groups ++ [state]) {index : Nat}
    (inside : index < self.count) : after.grouped index = self.grouped index := by
  rw [grouped, grouped, groupState_eq, groupState_eq, added,
    List.getElem?_append_left (by rw [length_groups]; exact inside)]

lemma grouped_last {state : UInt32} (added : after.groups = self.groups ++ [state]) :
    after.grouped self.count = (state == 1) := by
  rw [grouped, groupState_eq, added, List.getElem?_append_right (by rw [length_groups]),
    length_groups, Nat.sub_self]
  rfl

variable (h : self.HangsOnAnchor) (layout : Layout self) (grown : Layout after)
  (counted : after.count = self.count + 1)
include h layout grown counted

lemma HangsOnAnchor.alone
    (made : after = self.appendSample sample metricData 0
      ((self.comparisonsOf sample metricData).map Comparison.relation)) :
    after.HangsOnAnchor := by
  have table : after.relations = self.relations ++
      (self.comparisonsOf sample metricData).map Comparison.relation := by rw [made, appendSample]
  have groups : after.groups = self.groups ++ [0] := by
    simp only [made, Enrollment.groups, appendSample, List.map_append, List.map_cons, List.map_nil]
  refine h.extend layout grown counted ?_ ?_ (by rw [made, appendSample])
    (by rw [made, appendSample]) fun index inside => grouped_append groups inside
  · intro slot inside
    rw [table, List.getElem?_append_left inside]
  · intro older earlier usable
    exact .inl (strong_of_built layout grown counted earlier (by rw [table]) usable)

lemma HangsOnAnchor.joins (anchored : self.Anchored) (flag : self.hasGroupAnchor = true)
    {candidate : Nat}
    (made : after = (self.appendSample sample metricData 1
      ((self.comparisonsOf sample metricData).map Comparison.relation)).joinGroup self.count
        candidate) : after.HangsOnAnchor := by
  obtain ⟨below, live⟩ := anchored.inside flag
  have anchor : after.groupAnchor = self.groupAnchor := by rw [made, joinGroup, appendSample]
  have has : after.hasGroupAnchor = self.hasGroupAnchor := by rw [made, joinGroup, appendSample]
  have groups : after.groups = self.groups ++ [1] := by
    simp only [made, Enrollment.groups, joinGroup, appendSample, List.map_append, List.map_cons,
      List.map_nil]
  have slot : (self.appendSample sample metricData 1
      ((self.comparisonsOf sample metricData).map Comparison.relation)).relationIndex self.count
        self.groupAnchor = triangleBase self.count + self.groupAnchor := by
    have index := triangular_of_layout grown self.count self.groupAnchor below (by omega)
    rw [made] at index
    exact index
  -- Only the slot of the anchor is rewritten.
  have table : ∀ index, index ≠ triangleBase self.count + self.groupAnchor →
      after.relations[index]? = (self.relations ++
        (self.comparisonsOf sample metricData).map Comparison.relation)[index]? := by
    intro index other
    rw [made]
    simp only [joinGroup]
    rw [show (self.appendSample sample metricData 1 _).groupAnchor = self.groupAnchor from rfl,
      slot, List.getElem?_modify_ne _ _ (Ne.symm other)]
    rfl
  refine h.extend layout grown counted ?_ ?_ has anchor fun index inside =>
    grouped_append groups inside
  · intro index inside
    have length := layout.relations
    rw [table index (by omega), List.getElem?_append_left inside]
  · intro older earlier usable
    by_cases hangs : older = self.groupAnchor
    · right
      refine ⟨by rw [has, flag], by rw [grouped_last groups]; rfl, ?_, by rw [anchor, hangs]⟩
      rw [grouped_append groups earlier, hangs, grouped, live]
      rfl
    · exact .inl (strong_of_built layout grown counted earlier (table _ (by omega)) usable)

end Outcomes

/-! ### Opening the group -/

/-- A relation that opening the group may have rewritten: it was missing, and the new sample
has a relation to both of its ends. -/
def Bridged (count : Nat) (table : List Relation) (slot : Nat) : Prop :=
  ∃ newer older, older < newer ∧ newer < count ∧ slot = triangleBase newer + older ∧
    (∀ relation, table[slot]? = some relation → relation.inlierCount.toInt < 0) ∧
    (∃ relation, table[triangleBase count + newer]? = some relation ∧
      0 ≤ relation.inlierCount.toInt) ∧
    ∃ relation, table[triangleBase count + older]? = some relation ∧
      0 ≤ relation.inlierCount.toInt

lemma slot_below {newer older count : Nat} (earlier : older < newer) (inside : newer < count) :
    triangleBase newer + older < triangleBase count := by
  have next := triangleBase_mono (Nat.succ_le_of_lt inside)
  rw [Nat.succ_eq_add_one, triangleBase_succ (by omega)] at next
  omega

/-- Every pair has its own slot. -/
lemma slot_inj {newer older a b : Nat} (earlier : older < newer) (ab : b < a)
    (same : triangleBase newer + older = triangleBase a + b) : newer = a ∧ older = b := by
  rcases lt_trichotomy newer a with below | rfl | above
  · have := slot_below earlier below
    omega
  · exact ⟨rfl, by omega⟩
  · have := slot_below ab above
    omega

lemma mem_pairsBelow {bound newer older : Nat} (listed : (newer, older) ∈ pairsBelow bound) :
    older < newer ∧ newer < bound := by
  obtain ⟨outer, here, inner⟩ := List.mem_flatMap.mp listed
  obtain ⟨index, below, same⟩ := List.mem_map.mp inner
  have range := List.mem_range'.mp here
  cases same
  have := List.mem_range.mp below
  omega

/-- Opening the group rewrites bridged relations only. -/
lemma synthesize_slots (triangular : after.Triangular) {current : Nat}
    (inside : current < after.count) (table : List Relation) (slot : Nat) :
    ((pairsBelow current).foldl (after.synthesizeOne current) table)[slot]? = table[slot]? ∨
      Bridged current table slot := by
  have fold : ∀ (pairs : List (Nat × Nat)) (relations : List Relation),
      (∀ pair ∈ pairs, pair.2 < pair.1 ∧ pair.1 < current) →
      (∀ slot, relations[slot]? = table[slot]? ∨ Bridged current table slot) →
      ∀ slot, (pairs.foldl (after.synthesizeOne current) relations)[slot]? = table[slot]? ∨
        Bridged current table slot := by
    intro pairs
    induction pairs with
    | nil => exact fun _ _ kept => kept
    | cons pair rest ih =>
      intro relations below kept
      obtain ⟨earlier, before⟩ := below pair List.mem_cons_self
      refine ih _ (fun later listed => below later (List.mem_cons_of_mem pair listed)) fun slot => ?_
      have built : ∀ older < current, relations[triangleBase current + older]? =
          table[triangleBase current + older]? := by
        intro older _
        rcases kept (triangleBase current + older) with same | ⟨a, b, ab, inside', place, -⟩
        · exact same
        · have := slot_below ab inside'
          omega
      unfold synthesizeOne
      dsimp only
      rw [triangular pair.1 pair.2 earlier (by omega), triangular current pair.2 (by omega) inside,
        triangular current pair.1 before inside, built _ before, built pair.2 (by omega)]
      split
      · next existing older newer here left right =>
        split
        · exact kept slot
        · next missing =>
          push Not at missing
          by_cases same : slot = triangleBase pair.1 + pair.2
          · rcases kept slot with unchanged | bridged
            · right
              refine ⟨pair.1, pair.2, earlier, before, same, fun relation found => ?_,
                ⟨newer, right, missing.2.2⟩, ⟨older, left, missing.2.1⟩⟩
              rw [← unchanged, same, here, Option.some.injEq] at found
              rw [← found]
              exact missing.1
            · exact .inr bridged
          · rw [List.getElem?_set_ne (Ne.symm same)]
            exact kept slot
      · exact kept slot
  exact fold _ table (fun pair listed => mem_pairsBelow listed) (fun _ => .inl rfl) slot

/-- Where opening the group reads depends on the sub-templates alone. -/
lemma synthesizeOne_congr {opened : Enrollment} (same : opened.subtemplates = after.subtemplates) :
    opened.synthesizeOne = after.synthesizeOne := by
  funext current relations pair
  simp only [synthesizeOne, relationIndex, relationBase, same]

lemma HangsOnAnchor.opens {sample : Sample} {metricData : MetricData} (h : self.HangsOnAnchor)
    (layout : Layout self) (grown : Layout after) (counted : after.count = self.count + 1)
    (started : 0 < self.count) (lone : self.hasGroupAnchor = false) {candidate : Nat}
    {opened : Enrollment} (made : opened = (self.openGroup candidate).appendSample sample metricData
      1 ((self.comparisonsOf sample metricData).map Comparison.relation))
    (relations : after.relations = (opened.synthesizeFirstGroupRelations self.count).relations)
    (subtemplates : after.subtemplates = opened.subtemplates) : after.HangsOnAnchor := by
  have table : opened.relations = self.relations ++
      (self.comparisonsOf sample metricData).map Comparison.relation := by
    rw [made]
    rfl
  have slots : ∀ slot, after.relations[slot]? = opened.relations[slot]? ∨
      Bridged self.count opened.relations slot := by
    intro slot
    rw [relations, synthesizeFirstGroupRelations, synthesizeOne_congr subtemplates.symm]
    exact synthesize_slots (triangular_of_layout grown) (by omega) opened.relations slot
  -- The block of the new sample is never bridged.
  have block : ∀ older < self.count, after.relations[triangleBase self.count + older]? =
      opened.relations[triangleBase self.count + older]? := by
    intro older earlier
    rcases slots (triangleBase self.count + older) with same | ⟨a, b, ab, inside, place, -⟩
    · exact same
    · have := slot_below ab inside
      omega
  have built : ∀ older < self.count, after.usableRelation self.count older = true →
      after.strongRelation self.count older = true := fun older earlier =>
    strong_of_built layout grown counted earlier ((block older earlier).trans (by rw [table]))
  have bridged : ∀ index < self.count, (∃ relation, opened.relations[triangleBase self.count +
      index]? = some relation ∧ 0 ≤ relation.inlierCount.toInt) →
        after.forest.component self.count = after.forest.component index := by
    rintro index inside ⟨relation, found, nonneg⟩
    refine strong_component (by omega) (by omega) (built index inside ?_)
    refine usableRelation_iff.mpr ⟨relation, ?_, nonneg⟩
    rw [relationOf_layout grown (by omega) (by omega) (by omega), Nat.max_eq_left inside.le,
      Nat.min_eq_right inside.le, block index inside, found]
  -- An old slot holds what it held, or is bridged.
  have old : ∀ newer older, older < newer → newer < self.count →
      after.relationOf newer older = self.relationOf newer older ∨
        (∀ relation, self.relationOf newer older = some relation →
          relation.inlierCount.toInt < 0) ∧
        after.forest.component newer = after.forest.component older := by
    intro newer older earlier before
    have length := slot_below earlier before
    have kept : opened.relations[triangleBase newer + older]? =
        self.relations[triangleBase newer + older]? := by
      rw [table, List.getElem?_append_left (by rw [layout.relations]; exact length)]
    rw [relationOf_layout grown (by omega) (by omega) (by omega),
      relationOf_layout layout before (by omega) (by omega), Nat.max_eq_left earlier.le,
      Nat.min_eq_right earlier.le, ← kept]
    rcases slots (triangleBase newer + older) with same | bridge
    · exact .inl same
    · obtain ⟨a, b, ab, -, place, missing, left, right⟩ := bridge
      obtain ⟨rfl, rfl⟩ : newer = a ∧ older = b := slot_inj earlier ab place
      exact .inr ⟨missing, (bridged newer before left).symm.trans (bridged older (by omega) right)⟩
  have strong : ∀ a b, a < self.count → b < self.count → self.strongRelation a b = true →
      after.strongRelation a b = true := by
    have ordered : ∀ newer older, older < newer → newer < self.count →
        self.strongRelation newer older = true → after.strongRelation newer older = true := by
      intro newer older earlier before held
      obtain ⟨relation, found, enough⟩ := strongRelation_iff.mp held
      rcases old newer older earlier before with same | ⟨missing, -⟩
      · exact strongRelation_iff.mpr ⟨relation, same.trans found, enough⟩
      · have := missing relation found
        omega
    intro a b ha hb held
    rcases Nat.lt_or_gt_of_ne (strong_ne held) with below | above
    · rw [strongRelation_comm] at held ⊢
      exact ordered b a below hb held
    · exact ordered a b above ha held
  refine .of_ordered (fun _ => ?_) fun newer older earlier inside usable => .inl ?_
  · obtain ⟨subtemplate, found⟩ : ∃ subtemplate, self.subtemplates[0]? = some subtemplate :=
      ⟨_, List.getElem?_eq_getElem started⟩
    rw [grouped, groupState, subtemplates, made]
    simp only [appendSample, openGroup]
    rw [List.getElem?_append_left (by rw [List.length_map]; exact started), List.getElem?_map, found]
    rfl
  · rcases Nat.lt_or_ge newer self.count with before | last
    · rcases old newer older earlier before with same | ⟨-, joined⟩
      · rw [usableRelation, same] at usable
        rcases h.joined newer older before (by omega) usable with near | ⟨flag, -⟩
        · exact component_grows (by omega) strong before (by omega) near
        · exact absurd flag (by rw [lone]; exact Bool.false_ne_true)
      · exact joined
    · obtain rfl : newer = self.count := by omega
      exact strong_component inside (by omega) (built older earlier usable)

/-! ### Runs of insertions -/

lemma HangsOnAnchor.new : Enrollment.new.HangsOnAnchor :=
  ⟨fun flag => (Bool.false_ne_true flag).elim, fun _ _ inside => absurd inside (Nat.not_lt_zero _)⟩

lemma HangsOnAnchor.insertFirst (h : self.HangsOnAnchor) {sample : Sample}
    {result : EnrollmentResult} (ok : self.insertFirst sample = .ok (after, result)) :
    after.HangsOnAnchor := by
  obtain ⟨empty, -, -, rfl⟩ := insertFirst_ok ok
  have counted : self.subtemplates.length = 0 := empty
  refine ⟨fun flag => ?_, fun a b ha hb usable => ?_⟩
  · have := grouped_lt (h.first flag)
    omega
  · simp only [Enrollment.count, List.length_append, List.length_singleton] at ha hb
    exact absurd (show a = b by omega) (usable_ne usable)

lemma HangsOnAnchor.insertNext (h : self.HangsOnAnchor) (layout : Layout self)
    (anchored : self.Anchored) {sample : Sample} {result : EnrollmentResult}
    (ok : self.insertNext sample = .ok (after, result)) : after.HangsOnAnchor := by
  have grown := layout.insertNext ok
  obtain ⟨metricData, -, started, -, -, -, -, made⟩ := insertNext_ok ok
  have outcome : Outcome self sample metricData (self.comparisonsOf sample metricData) after := by
    rw [made]
    exact insertCompared_outcome self sample metricData _
  have counted := outcome.grows.count
  cases outcome with
  | alone lone closed => exact h.alone layout grown counted rfl
  | joins candidate joined found =>
    have grouped : self.hasGroup = true := (Bool.and_eq_true_iff.mp joined).1
    exact h.joins layout grown counted anchored (anchored.member (hasGroup_iff.mp grouped)) rfl
  | opens candidate formed found opened opened_eq =>
    have lone : self.hasGroupAnchor = false := by
      by_contra flag
      have grouped := List.mem_of_getElem? (anchored.anchor (Bool.eq_true_of_not_eq_false flag))
      simp [formsGroup, hasGroup_iff.mpr grouped] at formed
    refine h.opens layout grown counted (Nat.pos_of_ne_zero started) lone
      (Eq.refl ((self.openGroup candidate.index).appendSample sample metricData 1
        ((self.comparisonsOf sample metricData).map Comparison.relation))) ?_ ?_
    · rw [opened_eq]
    · rw [opened_eq]
      rfl

lemma hangsOnAnchor_of_reachable (h : Reachable (fun _ operation => operation.Inserts) self) :
    Layout self ∧ self.Anchored ∧ self.HangsOnAnchor :=
  h.invariant (fun e => Layout e ∧ e.Anchored ∧ e.HangsOnAnchor)
    ⟨Layout.new, anchored_new, HangsOnAnchor.new⟩
    fun before operation after ⟨layout, anchored, hangs⟩ permitted succeeds => by
      refine ⟨layout.step succeeds, anchored.step ?_ succeeds, ?_⟩
      · rintro ⟨dropped, -⟩
        obtain ⟨sample, first | next⟩ := permitted
        · cases dropped.symm.trans first
        · cases dropped.symm.trans next
      · obtain ⟨sample, rfl | rfl⟩ := permitted
        · obtain ⟨result, ok⟩ := ok_of_toOption_fst succeeds
          exact hangs.insertFirst ok
        · obtain ⟨result, ok⟩ := ok_of_toOption_fst succeeds
          exact hangs.insertNext layout anchored ok

/-- Inserting grids after a first one. -/
lemma reachable_of_grids {grids : List Grid} (room : grids.length < enrollmentCapacity)
    (apart : Apart ((false, 1) :: grids)) :
    Reachable (fun _ operation => operation.Inserts)
      (gridGallery.insertGrids [(false, 1)] grids) := by
  have first : Reachable (fun _ operation => operation.Inserts) gridGallery :=
    .step .start ⟨_, .inl rfl⟩ step_gridGallery
  refine first.run (fun _ operation listed => ?_)
    (onGrids_gridGallery.run (List.cons_ne_nil _ _) (by simpa using room) apart).1
  obtain ⟨grid, -, rfl⟩ := List.mem_map.mp listed
  exact ⟨_, .inr rfl⟩

end Enrollment

/-- A run of insertions serializes every pair of grouped sub-templates that is joined in memory
exactly if sub-template 0 is joined to the anchor of the group, or strong relations join to the
anchor whatever hangs on it. -/
theorem serialized_group_kept {e : Enrollment}
    (h : Reachable (fun _ operation => operation.Inserts) e) :
    e.KeepsGroup ↔ e.AnchorReconnects := by
  obtain ⟨layout, anchored, hangs⟩ := Enrollment.hangsOnAnchor_of_reachable h
  exact hangs.keepsGroup_iff (Enrollment.triangular_of_layout layout) anchored

/-- A shifted grid joins the first one, which is the anchor. -/
theorem serialized_group_kept_first :
    ∃ e : Enrollment, e.hasGroupAnchor = true ∧ e.count = 2 ∧ e.KeepsGroup := by
  have reached := Enrollment.reachable_of_grids (by decide)
    (⟨by simp [IsMark], by simp⟩ : Enrollment.Apart [(false, 1), (true, 1)])
  have holds : (fun e : Enrollment => e.hasGroupAnchor && e.count == 2 && e.groupAnchor == 0)
      (gridGallery.insertGrids [(false, 1)] [(true, 1)]) = true := by decide +kernel
  generalize gridGallery.insertGrids [(false, 1)] [(true, 1)] = e at reached holds
  simp only [Bool.and_eq_true, beq_iff_eq] at holds
  obtain ⟨⟨flag, two⟩, anchor⟩ := holds
  refine ⟨e, flag, two, (serialized_group_kept reached).mpr fun first root zero names _ => .inl ?_⟩
  rw [Fin.ext (zero.trans (anchor.symm.trans names.symm))]

/-- Two shifted grids over three unshifted ones: the fourth sample opens the group at the second
one, and the fifth, which matches the third, hangs on that anchor without an inlier. -/
theorem serialized_group_split :
    ¬∀ e, Reachable (fun _ operation => operation.Inserts) e → e.KeepsGroup := by
  intro keeps
  have reached := Enrollment.reachable_of_grids (by decide)
    (⟨by simp [IsMark], by simp⟩ :
      Enrollment.Apart [(false, 1), (false, 2), (false, 4), (true, 2), (true, 4)])
  have holds : (fun e : Enrollment =>
        e.hasGroupAnchor && e.count == 5 && e.groupAnchor == 1 && e.grouped 4 &&
          e.usableRelation 4 1 && e.forest.component 4 != e.forest.component 1 &&
          (List.range 5).all fun other => !e.strongRelation 0 other && !e.usableRelation 0 other)
      (gridGallery.insertGrids [(false, 1)] [(false, 2), (false, 4), (true, 2), (true, 4)]) =
        true := by decide +kernel
  generalize gridGallery.insertGrids [(false, 1)]
    [(false, 2), (false, 4), (true, 2), (true, 4)] = e at reached holds
  simp only [Bool.and_eq_true, beq_iff_eq, bne_iff_ne, List.all_eq_true, List.mem_range,
    Bool.not_eq_true'] at holds
  obtain ⟨⟨⟨⟨⟨⟨flag, five⟩, anchor⟩, member⟩, usable⟩, apart⟩, lone⟩ := holds
  obtain ⟨layout, anchored, hangs⟩ := Enrollment.hangsOnAnchor_of_reachable reached
  have condition := (hangs.keepsGroup_iff (Enrollment.triangular_of_layout layout) anchored).mp
    (keeps e reached)
  rcases condition ⟨0, by omega⟩ ⟨1, by omega⟩ rfl anchor.symm flag with path | strong
  · -- Nothing is joined to sub-template 0.
    rw [SimpleGraph.reachable_iff_reflTransGen] at path
    rcases path.cases_head with same | ⟨other, strong | ⟨-, -, joined⟩, -⟩
    · exact absurd (congrArg Fin.val same) (by simp)
    · have := (lone other (by omega)).1
      rw [this] at strong
      exact Bool.false_ne_true strong
    · have := (lone other (by omega)).2
      rw [this] at joined
      exact Bool.false_ne_true joined
  · have same := Enrollment.component_iff.mpr (strong ⟨4, by omega⟩ member usable)
    exact apart same

end GoodixSpi.Chicago
