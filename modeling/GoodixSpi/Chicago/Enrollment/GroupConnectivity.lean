import GoodixSpi.Chicago.Enrollment.Connectivity
import GoodixSpi.Chicago.Enrollment.Group

/-! What serialization does to the group. In memory the group hangs on its anchor, through
relations that insertion gave no inliers; the mask reconnects components to the first
grouped sub-template instead. -/

namespace GoodixSpi.Chicago.Enrollment

variable (self : Enrollment)

/-- Strong relations, and non-negative relations between grouped sub-templates. -/
def memoryGraph : SimpleGraph (Fin self.count) where
  Adj a b := self.strongRelation a b = true ∨
    self.grouped a = true ∧ self.grouped b = true ∧ self.usableRelation a b = true
  symm := ⟨fun a b joined => by
    rw [strongRelation_comm, usableRelation, relationOf_comm]
    exact joined.imp_right fun ⟨left, right, usable⟩ => ⟨right, left, usable⟩⟩
  loopless := ⟨fun a joined => by
    rcases joined with strong | ⟨-, -, usable⟩
    · exact self.strongGraph.loopless.irrefl a strong
    · obtain ⟨relation, found, -⟩ := usableRelation_iff.mp usable
      rw [relationOf_eq, if_pos rfl] at found
      cases found⟩

/-- The relations that the mask selects. -/
def serializedGraph : SimpleGraph (Fin self.count) where
  Adj a b := a ≠ b ∧ self.pairSlot (a, b) ∈ self.buildSerializedRelationMask.slots
  symm := ⟨fun a b chosen => by
    rw [pairSlot, max_comm, min_comm]
    exact ⟨chosen.1.symm, chosen.2⟩⟩
  loopless := ⟨fun _ chosen => chosen.1 rfl⟩

/-- Grouped sub-templates that are joined in memory stay joined. -/
def KeepsGroup : Prop :=
  ∀ a b : Fin self.count, self.grouped a = true → self.grouped b = true →
    self.memoryGraph.Reachable a b → self.serializedGraph.Reachable a b

/-- What a run of insertions makes of the relations: one that is not strong joins sub-templates
that strong relations join already, or a grouped one to the anchor of the group. -/
structure HangsOnAnchor (e : Enrollment) : Prop where
  first : e.hasGroupAnchor = true → e.grouped 0 = true
  joined : ∀ a b, a < e.count → b < e.count → e.usableRelation a b = true →
    e.forest.component a = e.forest.component b ∨
      e.hasGroupAnchor = true ∧ e.grouped a = true ∧ e.grouped b = true ∧
        e.groupAnchor = min a b

variable {self}

lemma strong_le_memory : self.strongGraph ≤ self.memoryGraph := fun _ _ strong => .inl strong

lemma selectedStrong_le_serialized : self.selectedStrongGraph ≤ self.serializedGraph :=
  fun _ _ chosen => ⟨fun same => self.selectedStrongGraph.loopless.irrefl _ (same ▸ chosen),
    chosen.2⟩

/-- Strong relations stay serialized as paths. -/
lemma strong_serialized {a b : Fin self.count} (joined : self.strongGraph.Reachable a b) :
    self.serializedGraph.Reachable a b := by
  obtain ⟨rank, tree⟩ := @forest_tree self
  have forest := tree.reachable_iff.mpr (strong_reachable_iff.mp joined)
  refine forest.mono fun u v edge => ?_
  rcases tree.adj_iff.mp edge with up | up
  · exact selectedStrong_le_serialized (forest_edge up)
  · exact self.serializedGraph.symm.symm _ _ (selectedStrong_le_serialized (forest_edge up))

lemma component_iff {a b : Fin self.count} :
    self.forest.component a = self.forest.component b ↔ self.strongGraph.Reachable a b := by
  rw [strong_reachable_iff, component_eq, component_eq, Option.some.injEq, Fin.ext_iff]

lemma grouped_lt {index : Nat} (grouped : self.grouped index = true) : index < self.count := by
  by_contra outside
  rw [Enrollment.grouped, groupState, List.getElem?_eq_none (by simpa [Enrollment.count] using outside)]
    at grouped
  exact absurd grouped (by decide)

lemma grouped_mem {index : Nat} (grouped : self.grouped index = true) : 1 ∈ self.groups := by
  rw [Enrollment.grouped, groupState_eq, beq_iff_eq] at grouped
  cases found : self.groups[index]? with
  | none =>
    rw [found] at grouped
    exact absurd grouped (by decide)
  | some state =>
    rw [found, Option.getD_some] at grouped
    rw [← grouped]
    exact List.mem_of_getElem? found

lemma usable_comm (a b : Nat) : self.usableRelation a b = self.usableRelation b a := by
  rw [usableRelation, usableRelation, relationOf_comm]

lemma usable_ne {a b : Nat} (usable : self.usableRelation a b = true) : a ≠ b := by
  rintro rfl
  obtain ⟨relation, found, -⟩ := usableRelation_iff.mp usable
  rw [relationOf_eq, if_pos rfl] at found
  cases found

lemma strong_ne {a b : Nat} (strong : self.strongRelation a b = true) : a ≠ b := by
  obtain ⟨relation, found, enough⟩ := strongRelation_iff.mp strong
  exact usable_ne (usableRelation_iff.mpr ⟨relation, found, by omega⟩)

/-! ### Bridges to sub-template 0 -/

lemma firstGrouped_zero (first : self.grouped 0 = true) : self.firstGrouped = some 0 := by
  obtain ⟨more, size⟩ : ∃ more, self.count = more + 1 :=
    ⟨self.count - 1, by have := grouped_lt first; omega⟩
  rw [firstGrouped, size, List.range_succ_eq_map, List.find?_cons_of_pos first]

/-- The bridges of a group that holds sub-template 0. -/
def bridges (self : Enrollment) : Bridges.State :=
  Bridges.run self.usableRelation self.grouped self.count 0 self.forest.component

lemma reconnected_eq (first : self.grouped 0 = true) : self.reconnected = self.bridges.picks := by
  rw [reconnected, firstGrouped_zero first, bridges]

lemma reconnected_serialized {a b : Fin self.count} (chosen : (a.val, b.val) ∈ self.reconnected) :
    self.serializedGraph.Adj a b := by
  obtain ⟨-, -, differ, -, usable⟩ := reconnected_weak chosen
  obtain ⟨relation, found, -⟩ := usableRelation_iff.mp usable
  exact ⟨fun same => differ (congrArg Fin.val same),
    selected_of_pair found (List.mem_append_right _ chosen)⟩

/-- What the bridges merge is serialized as paths. -/
lemma merged_serialized (first : self.grouped 0 = true) {a b : Fin self.count}
    (merged : self.bridges.component a = self.bridges.component b) :
    self.serializedGraph.Reachable a b := by
  have paths : ∀ v w : Nat, Relation.ReflTransGen
      (Bridges.Linked self.count self.forest.component self.bridges.picks) v w →
      ∀ (hv : v < self.count) (hw : w < self.count),
        self.serializedGraph.Reachable ⟨v, hv⟩ ⟨w, hw⟩ := by
    intro v w path
    induction path using Relation.ReflTransGen.head_induction_on with
    | refl => exact fun _ _ => SimpleGraph.Reachable.refl _
    | head link _ ih =>
      intro hv hw
      obtain ⟨-, hc, same | pick | pick⟩ := link
      · exact (strong_serialized (component_iff.mp same)).trans (ih hc hw)
      · rw [← reconnected_eq first] at pick
        exact (reconnected_serialized (a := ⟨_, hv⟩) (b := ⟨_, hc⟩) pick).reachable.trans (ih hc hw)
      · rw [← reconnected_eq first] at pick
        exact (reconnected_serialized (a := ⟨_, hc⟩) (b := ⟨_, hv⟩) pick).symm.reachable.trans
          (ih hc hw)
  exact paths a b (Bridges.run_linked a.isLt b.isLt merged) a.isLt b.isLt

section Anchor

variable (h : self.HangsOnAnchor) (flag : self.hasGroupAnchor = true) {first anchor : Fin self.count}
  (zero : first.val = 0) (names : anchor.val = self.groupAnchor)
include h names

/-- Sub-template 0 reaches the anchor through its own component, or through one member of it
that hangs on the anchor. -/
lemma HangsOnAnchor.anchor_reached (reached : self.memoryGraph.Reachable first anchor) :
    self.forest.component anchor = self.forest.component first ∨
      ∃ member : Fin self.count, self.grouped member = true ∧
        self.usableRelation anchor member = true ∧
        self.forest.component member = self.forest.component first := by
  have along : ∀ v, self.memoryGraph.Reachable first v →
      self.forest.component v = self.forest.component first ∨
        self.forest.component anchor = self.forest.component first ∨
        ∃ member : Fin self.count, self.grouped member = true ∧
          self.usableRelation anchor member = true ∧
          self.forest.component member = self.forest.component first := by
    intro v path
    rw [SimpleGraph.reachable_iff_reflTransGen] at path
    induction path with
    | refl => exact .inl rfl
    | @tail u w _ edge ih =>
      rcases ih with near | found
      · rcases edge with strong | ⟨left, right, usable⟩
        · exact .inl ((strong_component u.isLt w.isLt strong).symm.trans near)
        · rcases h.joined u w u.isLt w.isLt usable with same | ⟨-, -, -, least⟩
          · exact .inl (same.symm.trans near)
          · right
            rw [← names] at least
            rcases Nat.le_total u.val w.val with below | above
            · rw [Nat.min_eq_left below] at least
              rw [Fin.ext least]
              exact .inl near
            · rw [Nat.min_eq_right above] at least
              refine .inr ⟨u, left, ?_, near⟩
              rw [Fin.ext least, usable_comm]
              exact usable
      · exact .inr found
  rcases along anchor reached with same | found
  · exact .inl same
  · exact found

include zero

/-- The anchor's component is merged with that of sub-template 0 once the anchor was tried. -/
lemma HangsOnAnchor.anchor_merged (reached : self.memoryGraph.Reachable first anchor)
    (member : self.grouped anchor = true) :
    let after := Bridges.runTo self.usableRelation self.grouped self.count 0 self.forest.component
      (anchor + 1)
    after.component anchor = after.component 0 := by
  intro after
  rcases h.anchor_reached names reached with same | ⟨other, joins, usable, near⟩
  · rw [zero] at same
    exact Bridges.runTo_merges (Nat.zero_le _) same
  · rw [zero] at near
    have far : (Bridges.runTo self.usableRelation self.grouped self.count 0 self.forest.component
        anchor).component other = _ := Bridges.runTo_merges (Nat.zero_le anchor.val) near
    rw [show after = _ from Bridges.runTo_succ _ _]
    exact Bridges.connect_joins anchor.isLt other.isLt member joins far usable

include flag

/-- Whatever hangs on the anchor is then merged with it. -/
lemma HangsOnAnchor.member_merged (reached : self.memoryGraph.Reachable first anchor)
    (anchored : self.grouped anchor = true) {other : Fin self.count}
    (member : self.grouped other = true) (usable : self.usableRelation other anchor = true)
    (later : anchor < other) : self.serializedGraph.Reachable other anchor := by
  have start := h.anchor_merged zero names reached anchored
  have here := Bridges.runTo_merges (Nat.succ_le_of_lt later) start
  have joined := Bridges.connect_joins other.isLt anchor.isLt member anchored here usable
  rw [← Bridges.runTo_succ] at joined
  have final := Bridges.runTo_merges (Nat.succ_le_of_lt other.isLt) joined
  have final' := Bridges.runTo_merges (Nat.succ_le_of_lt anchor.isLt) start
  exact merged_serialized (h.first flag) (final.trans final'.symm)

end Anchor

/-! ### When the group survives -/

/-- Sub-template 0 is joined to the anchor in memory, or nothing but strong relations joins
the group to its anchor. -/
def AnchorReconnects (e : Enrollment) : Prop :=
  ∀ first anchor : Fin e.count, first.val = 0 → anchor.val = e.groupAnchor →
    e.hasGroupAnchor = true →
    e.memoryGraph.Reachable first anchor ∨
      ∀ member : Fin e.count, e.grouped member = true → e.usableRelation member anchor = true →
        e.strongGraph.Reachable member anchor

/-- Apart from sub-template 0 in memory, the anchor has no bridge to it. -/
lemma HangsOnAnchor.no_bridges (h : self.HangsOnAnchor) (flag : self.hasGroupAnchor = true)
    {first anchor : Fin self.count} (zero : first.val = 0) (names : anchor.val = self.groupAnchor)
    (apart : ¬self.memoryGraph.Reachable first anchor) : self.reconnected = [] := by
  have strong : ∀ a b : Fin self.count, self.forest.component a = self.forest.component b →
      self.memoryGraph.Reachable a b :=
    fun a b same => (component_iff.mp same).mono strong_le_memory
  have none_ := @Bridges.run_induct self.usableRelation self.grouped self.count 0
    (fun st => st.component = self.forest.component ∧ st.picks = []) self.forest.component
    ⟨rfl, rfl⟩ fun st current pick kept _ _ differ found => by
      exfalso
      obtain ⟨near, left, far, right⟩ := Bridges.bridge_some found
      obtain ⟨inside, inside', usable⟩ := Bridges.bridge_usable found
      rw [kept.1] at near far differ
      rw [← zero] at far differ
      rcases h.joined pick.1 pick.2 inside inside' usable with same | ⟨-, -, -, least⟩
      · exact differ (near.symm.trans (same.trans far))
      · rw [← names] at least
        rcases Nat.le_total pick.1 pick.2 with below | above
        · rw [Nat.min_eq_left below] at least
          have edge : self.memoryGraph.Adj ⟨pick.2, inside'⟩ anchor := by
            refine .inr ⟨right, ?_, ?_⟩
            · rw [least]
              exact left
            · rw [least, usable_comm]
              exact usable
          exact apart ((strong first ⟨pick.2, inside'⟩ far.symm).trans edge.reachable)
        · rw [Nat.min_eq_right above] at least
          exact apart (strong first anchor (by rw [least]; exact far.symm))
  rw [reconnected_eq (h.first flag)]
  exact none_.2

/-- In a state that insertions reach, the group survives serialization exactly if its anchor
is reconnected. -/
lemma HangsOnAnchor.keepsGroup_iff (h : self.HangsOnAnchor) (triangular : self.Triangular)
    (anchored : self.Anchored) : self.KeepsGroup ↔ self.AnchorReconnects := by
  constructor
  · intro keeps first anchor zero names flag
    by_contra broken
    push Not at broken
    obtain ⟨apart, member, grouped, usable, weak⟩ := broken
    have none_ := h.no_bridges flag zero names apart
    have live := (anchored.inside flag).2
    have anchorGrouped : self.grouped anchor = true := by
      rw [Enrollment.grouped, names, live]
      rfl
    have serialized := keeps member anchor grouped anchorGrouped
      (SimpleGraph.Adj.reachable (.inr ⟨grouped, anchorGrouped, usable⟩))
    apply weak
    refine serialized.mono fun u v chosen => ?_
    rcases triangular.chosen_of_slot chosen.1 chosen.2 with up | down | bridge | bridge
    · exact (forest_edge up).1
    · exact self.strongGraph.symm.symm _ _ (forest_edge down).1
    · rw [none_] at bridge
      cases bridge
    · rw [none_] at bridge
      cases bridge
  · intro reconnects a b groupedA groupedB path
    have started : 0 < self.count := Nat.zero_lt_of_lt a.isLt
    have flag : self.hasGroupAnchor = true := anchored.member (grouped_mem groupedA)
    obtain ⟨below, live⟩ := anchored.inside flag
    have condition := reconnects ⟨0, started⟩ ⟨self.groupAnchor, below⟩ rfl rfl flag
    have anchorGrouped : self.grouped self.groupAnchor = true := by
      rw [Enrollment.grouped, live]
      rfl
    -- What hangs on the anchor is serialized with it.
    have hangs : ∀ member : Fin self.count, self.grouped member = true →
        self.usableRelation member self.groupAnchor = true → self.groupAnchor < member.val →
        self.serializedGraph.Reachable member ⟨self.groupAnchor, below⟩ := by
      intro member grouped usable later
      rcases condition with reached | strong
      · exact h.member_merged flag rfl rfl reached anchorGrouped grouped usable later
      · exact strong_serialized (strong member grouped usable)
    have edges : ∀ u v, self.memoryGraph.Adj u v → self.serializedGraph.Reachable u v := by
      rintro u v (strong | ⟨left, right, usable⟩)
      · exact strong_serialized (SimpleGraph.Adj.reachable strong)
      · rcases h.joined u v u.isLt v.isLt usable with same | ⟨-, -, -, least⟩
        · exact strong_serialized (component_iff.mp same)
        · have differ := usable_ne usable
          rcases Nat.lt_or_ge u.val v.val with lower | higher
          · rw [Nat.min_eq_left lower.le] at least
            have same : u = ⟨self.groupAnchor, below⟩ := Fin.ext least.symm
            rw [usable_comm, ← least] at usable
            rw [same]
            exact (hangs v right usable (by omega)).symm
          · rw [Nat.min_eq_right higher] at least
            have same : v = ⟨self.groupAnchor, below⟩ := Fin.ext least.symm
            rw [← least] at usable
            rw [same]
            exact hangs u left usable (by omega)
    obtain ⟨walk⟩ := path
    clear groupedA groupedB
    induction walk with
    | nil => exact SimpleGraph.Reachable.refl _
    | cons edge _ ih => exact (edges _ _ edge).trans ih

/-! ### Insertions -/

lemma relationOf_layout (layout : Layout self) {a b : Nat} (ha : a < self.count)
    (hb : b < self.count) (differ : a ≠ b) :
    self.relationOf a b = self.relations[triangleBase (max a b) + min a b]? := by
  rw [relationOf_eq, if_neg differ, (triangular_of_layout layout).pairSlot_eq ha hb differ]

/-- Components only merge while strong relations are kept. -/
lemma component_grows {after : Enrollment} (grown : self.count ≤ after.count)
    (strong : ∀ a b, a < self.count → b < self.count → self.strongRelation a b = true →
      after.strongRelation a b = true) {a b : Nat} (ha : a < self.count) (hb : b < self.count)
    (same : self.forest.component a = self.forest.component b) :
    after.forest.component a = after.forest.component b := by
  have path := (component_iff (a := ⟨a, ha⟩) (b := ⟨b, hb⟩)).mp same
  rw [SimpleGraph.reachable_iff_reflTransGen] at path
  have along : ∀ v : Fin self.count, Relation.ReflTransGen self.strongGraph.Adj ⟨a, ha⟩ v →
      after.forest.component a = after.forest.component v := by
    intro v path
    induction path with
    | refl => rfl
    | @tail u w _ edge ih =>
      exact ih.trans (strong_component (u.isLt.trans_le grown) (w.isLt.trans_le grown)
        (strong u w u.isLt w.isLt edge))
  exact along ⟨b, hb⟩ path

/-- A built relation is a sentinel or strong. -/
lemma compare_inliers (sample : Sample) (metricData : MetricData) (old : Subtemplate) :
    (compare sample metricData old).relation.inlierCount.toInt < 0 ∨
      6 ≤ (compare sample metricData old).relation.inlierCount.toInt := by
  unfold compare
  dsimp only
  split
  · exact .inl (by decide)
  · next enough => exact .inr (by omega)

end GoodixSpi.Chicago.Enrollment
