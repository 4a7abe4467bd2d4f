import GoodixSpi.Chicago.Enrollment.CapacitySafety

/-! Study of a full gallery with a slot for every pair always comes to a selection. It rewrites
relations and group flags and leaves everything else of the gallery alone. -/

namespace GoodixSpi.Chicago

open Worklist SearchForest

namespace CapacityGraph

/-- The two differ in relations, in group flags and in study counts only. -/
structure SameContent (g g' : CapacityGraph) : Prop where
  slots : Enrollment.SameSlots g.enrollment g'.enrollment
  recordLimit : g'.enrollment.recordLimit = g.enrollment.recordLimit
  matchOrder : g'.enrollment.matchOrder = g.enrollment.matchOrder
  cores : g'.enrollment.subtemplates.map Subtemplate.core =
    g.enrollment.subtemplates.map Subtemplate.core
  probe : g'.probeRelations.map List.length = g.probeRelations.map List.length

variable {g g' g'' : CapacityGraph}

lemma SameContent.refl (g : CapacityGraph) : SameContent g g :=
  ⟨.refl _, rfl, rfl, rfl, rfl⟩

lemma SameContent.trans (first : SameContent g g') (second : SameContent g' g'') :
    SameContent g g'' where
  slots := first.slots.trans second.slots
  recordLimit := second.recordLimit.trans first.recordLimit
  matchOrder := second.matchOrder.trans first.matchOrder
  cores := second.cores.trans first.cores
  probe := second.probe.trans first.probe

lemma sameContent_setRelation (slot : Nat) (relation : Relation) :
    SameContent g (g.setRelation slot relation) :=
  ⟨sameSlots_setRelation slot relation, rfl, rfl, rfl, rfl⟩

lemma sameContent_setProbeRelation (index : Nat) (relation : Relation) :
    SameContent g (g.setProbeRelation index relation) := by
  refine ⟨.refl _, rfl, rfl, rfl, ?_⟩
  simp only [setProbeRelation, Option.map_map, Function.comp_def, List.length_set]

lemma sameContent_joinGroups (root candidate : Nat) :
    SameContent g (g.joinGroups root candidate) := by
  have slots := sameSlots_joinGroups (g := g) root candidate
  unfold joinGroups at slots ⊢
  split
  · next joins =>
    rw [if_pos joins] at slots
    refine ⟨slots, rfl, rfl, ?_, rfl⟩
    refine List.ext_getElem? fun index => ?_
    simp only [List.getElem?_map, List.getElem?_mapIdx]
    cases g.enrollment.subtemplates[index]? with
    | none => rfl
    | some subtemplate =>
      simp only [Option.map_some]
      split <;> rfl
  · exact .refl g

lemma store_sameContent {first second : Nat} {transform : Transform} {strength : Int32}
    (stored : g.store first second transform strength = some g') : SameContent g g' := by
  unfold store at stored
  dsimp only at stored
  split at stored
  · cases stored
    exact .refl g
  · split at stored
    · cases stored
      exact sameContent_setProbeRelation _ _
    · split at stored
      · cases stored
        exact sameContent_setProbeRelation _ _
      · split at stored
        all_goals
          obtain ⟨slot, -, rfl⟩ := Option.map_eq_some_iff.mp stored
          exact sameContent_setRelation _ _

/-! ### The two searches -/

lemma propagation_sameContent {probeNode : Nat} {state next : Propagation} {source candidate : Nat}
    (discovered : (propagationMachine probeNode).discover state source candidate = some next) :
    SameContent state.graph next.graph := by
  simp only [propagationMachine] at discovered
  split at discovered
  · cases discovered
  · split at discovered
    · cases discovered
    · split at discovered
      · cases discovered
        exact .refl _
      · split at discovered
        · cases discovered
          exact .refl _
        · next stored =>
          cases discovered
          exact store_sameContent stored

lemma synthesis_sameContent {root : Nat} {state next : Synthesis} {source candidate : Nat}
    (discovered : (synthesisMachine root).discover state source candidate = some next) :
    SameContent state.graph next.graph := by
  simp only [synthesisMachine] at discovered
  split at discovered
  · cases discovered
  · split at discovered
    · cases discovered
    · split at discovered
      · cases discovered
        exact .refl _
      · split at discovered
        · cases discovered
          exact .refl _
        · next stored =>
          cases discovered
          have kept := store_sameContent stored
          dsimp only
          split
          · exact kept.trans (sameContent_joinGroups root candidate)
          · exact kept

lemma searchFrom_sameContent (state : Synthesis) (root : Nat) :
    SameContent state.graph (state.searchFrom root).graph :=
  drain_preserves (M := synthesisMachine root) (fun reached => SameContent state.graph reached.graph)
    (descending (state.graph.count + 1)) (fun _ _ kept => kept)
    (fun _ _ _ _ _ kept discovered => kept.trans (synthesis_sameContent discovered)) _ _ _
    (.refl _)

lemma foldl_searchFrom_sameContent (roots : List Nat) (state : Synthesis) :
    SameContent state.graph (roots.foldl Synthesis.searchFrom state).graph := by
  induction roots generalizing state with
  | nil => exact .refl _
  | cons root rest ih => exact (searchFrom_sameContent state root).trans (ih _)

/-- What the two searches ask for before they start. -/
structure Ready (g : CapacityGraph) : Prop where
  full : g.count = g.enrollment.capacity
  small : g.count ≤ enrollmentCapacity
  slots : g.enrollment.SlotsExist

lemma Ready.of_sameContent (ready : g.Ready) (same : SameContent g g') : g'.Ready where
  full := same.slots.count.trans (ready.full.trans same.slots.capacity.symm)
  small := same.slots.count.trans_le ready.small
  slots := same.slots.slotsExist ready.slots

lemma Ready.admits (ready : g.Ready) {relationCount : Nat} (given : relationCount = g.count) :
    g.admits relationCount = true := by
  simp only [CapacityGraph.admits, Bool.and_eq_true, beq_iff_eq, decide_eq_true_eq]
  exact ⟨⟨ready.full, ready.small⟩, given⟩

lemma Ready.propagate (ready : g.Ready) {relations : List Relation}
    (given : g.probeRelations = some relations) {relationCount : Nat}
    (counted : relationCount = g.count) :
    ∃ left, g.propagate relationCount = .ok left ∧ SameContent g left.1 := by
  have same := drain_preserves (M := propagationMachine g.count)
    (fun reached => SameContent g reached.graph) (descending g.count) (fun _ _ kept => kept)
    (fun _ _ _ _ _ kept discovered => kept.trans (propagation_sameContent discovered))
    (g.count + 1) ⟨g, false, fun _ => false, identityGroupTransform⟩ [g.count] (.refl g)
  have clean := drain_preserves (M := propagationMachine g.count)
    (fun reached => reached.nullRelation = false ∧
      Enrollment.SameSlots g.enrollment reached.graph.enrollment)
    (descending g.count) (fun _ _ kept => kept)
    (fun _ _ _ _ _ kept discovered => propagation_discover kept.2 kept.1 discovered)
    (g.count + 1) ⟨g, false, fun _ => false, identityGroupTransform⟩ [g.count] ⟨rfl, .refl _⟩
  unfold CapacityGraph.propagate
  rw [if_neg (by simp [given, ready.admits counted])]
  dsimp only
  rw [clean.1]
  exact ⟨_, rfl, same⟩

lemma Ready.synthesize (ready : g.Ready) {relationCount : Nat} (counted : relationCount = g.count) :
    ∃ closed, g.synthesize relationCount = .ok closed ∧ SameContent g closed := by
  have safe := synthesize_findsSlots ready.slots relationCount
  have same := foldl_searchFrom_sameContent (List.range g.count)
    ⟨g, false, fun _ => false, fun _ _ => 0, identityGroupTransform, 0⟩
  unfold CapacityGraph.synthesize at safe ⊢
  rw [if_neg (by simp [ready.admits counted])] at safe ⊢
  dsimp only at safe ⊢
  split
  · next lost =>
    rw [lost] at safe
    exact absurd rfl safe
  · exact ⟨_, rfl, same⟩

/-! ### The relations that propagation left open -/

lemma refineRelation_ok {relations : List Relation} (given : g.probeRelations = some relations)
    (counted : relations.length = g.count) (probe : SubtemplateView) (visited : Nat → Bool)
    (build : CapacityRelationBuilder) {index : Nat} (inside : index < g.count) :
    ∃ refined, refineRelation probe visited (some build) g index = .ok refined ∧
      SameContent g refined := by
  have here : g.enrollment.subtemplates[index]? = some g.enrollment.subtemplates[index] :=
    List.getElem?_eq_getElem inside
  have open_ : g.probeRelations.bind (·[index]?) = some relations[index] := by
    rw [given, Option.bind_some]
    exact List.getElem?_eq_getElem (by omega)
  unfold refineRelation
  rw [open_, here]
  dsimp only
  split
  · exact ⟨g, rfl, .refl g⟩
  · exact ⟨_, rfl, sameContent_setProbeRelation _ _⟩

lemma SameContent.probeRelations (same : SameContent g g') {relations : List Relation}
    (given : g.probeRelations = some relations) :
    ∃ relations', g'.probeRelations = some relations' ∧ relations'.length = relations.length := by
  have lengths := same.probe
  rw [given] at lengths
  cases kept : g'.probeRelations with
  | none => simp [kept] at lengths
  | some relations' => exact ⟨relations', rfl, by simpa [kept] using lengths⟩

lemma foldlM_refineRelation_ok {relations : List Relation}
    (given : g.probeRelations = some relations) (counted : relations.length = g.count)
    (probe : SubtemplateView) (visited : Nat → Bool) (build : CapacityRelationBuilder)
    (indices : List Nat) (inside : ∀ index ∈ indices, index < g.count) :
    ∃ refined, indices.foldlM (refineRelation probe visited (some build)) g = .ok refined ∧
      SameContent g refined := by
  induction indices generalizing g relations with
  | nil => exact ⟨g, rfl, .refl g⟩
  | cons index rest ih =>
    obtain ⟨next, refined, same⟩ := refineRelation_ok given counted probe visited build
      (inside index List.mem_cons_self)
    obtain ⟨relations', given', kept⟩ := same.probeRelations given
    have count : next.count = g.count := same.slots.count
    obtain ⟨last, later, further⟩ := ih given' (by omega) fun later listed => by
      rw [count]
      exact inside later (List.mem_cons_of_mem index listed)
    refine ⟨last, ?_, same.trans further⟩
    rw [List.foldlM_cons, refined]
    exact later

end CapacityGraph

namespace Enrollment

open CapacityGraph

variable {e : Enrollment} {probe : SubtemplateView} {selectedIndex : Nat}
  {relations : List Relation}

lemma reconstruct_ok (ready : CapacityGraph.Ready ⟨e, none⟩) (reconstructGallery : Bool) :
    ∃ rebuilt, e.reconstruct reconstructGallery = .ok rebuilt ∧
      SameContent ⟨e, none⟩ rebuilt := by
  unfold reconstruct
  split
  · exact ready.synthesize rfl
  · exact ⟨_, rfl, .refl _⟩

lemma calculateCapacityScores_ok (full : e.count = e.capacity) (given : relations.length = e.count)
    (flagged : probe.hasMetricData = true) (metric : probe.metricData.isSome = true) :
    ∃ scores, e.calculateCapacityScores probe relations = .ok (some scores) := by
  obtain ⟨metricData, found⟩ := Option.isSome_iff_exists.mp metric
  have admitted : ¬(e.count ≠ e.capacity ∨ relations.length ≠ e.count ∨
      probe.hasMetricData = false) := by
    rw [flagged]
    simp [full, given]
  unfold calculateCapacityScores
  rw [if_neg admitted, found]
  exact ⟨_, rfl⟩

/-- The place that the selection names exists. -/
lemma bestReplacement_inside (scores : CapacityScores) {index : Nat}
    (best : e.bestReplacement probe scores = some index) : index < e.count := by
  have kept : ∀ (entries : List ((Subtemplate × Int) × Nat)) (state : Int × Option Nat),
      (∀ entry ∈ entries, entry.2 < e.count) → (∀ i, state.2 = some i → i < e.count) →
      ∀ i, (entries.foldl (fun (best : Int × Option Nat) entry =>
        if entry.1.1.records.length * 50 > probe.records.length * 100 ∨ entry.1.2 ≤ best.1 then best
        else (entry.1.2, some entry.2)) state).2 = some i → i < e.count := by
    intro entries
    induction entries with
    | nil => exact fun _ _ inside => inside
    | cons entry rest ih =>
      intro state listed inside
      refine ih _ (fun other later => listed other (List.mem_cons_of_mem _ later)) fun i named => ?_
      dsimp only at named
      split at named
      · exact inside i named
      · cases named
        exact listed entry List.mem_cons_self
  refine kept _ _ (fun entry listed => ?_) (fun i none_ => by cases none_) index best
  have here := List.mk_mem_zipIdx_iff_getElem?.mp (show (entry.1, entry.2) ∈ _ from listed)
  have inside := (List.getElem?_eq_some_iff.mp here).1
  rw [List.length_zip] at inside
  exact inside.trans_le (Nat.min_le_left _ _)

lemma chooseReplacement_inside {scores : CapacityScores} {selectedIndex index : Nat}
    (chosen : e.chooseReplacement probe selectedIndex scores = some index) : index < e.count := by
  unfold chooseReplacement at chosen
  split at chosen
  · next best =>
    cases chosen
    exact bestReplacement_inside scores best
  · split at chosen
    · next selected _ found _ =>
      split at chosen
      · cases chosen
        exact (List.getElem?_eq_some_iff.mp found).1
      · cases chosen
    · cases chosen

/-- A selection is never refused and meets no missing slot, and the place that it names, if it
names one, exists. -/
theorem selectCapacityReplacement_ok (slots : e.SlotsExist) (full : e.count = e.capacity)
    (small : e.capacity ≤ enrollmentCapacity) (selected : selectedIndex < e.count)
    (given : relations.length = e.count) (flagged : probe.hasMetricData = true)
    (metric : probe.metricData.isSome = true) (reconstructGallery : Bool)
    (build : CapacityRelationBuilder) :
    ∃ selection, e.selectCapacityReplacement probe selectedIndex relations reconstructGallery
        (some build) = .ok selection ∧
      SameContent ⟨e, some relations⟩ selection.graph ∧
      (∀ index, selection.replacementIndex = some index → index < e.count) ∧
      ∃ closed, selection.graph.probeRelations = some closed ∧ closed.length = e.count := by
  have ready : CapacityGraph.Ready ⟨e, none⟩ := ⟨full, full.trans_le small, slots⟩
  obtain ⟨rebuilt, reconstructed, kept⟩ := reconstruct_ok ready reconstructGallery
  have started : SameContent ⟨e, some relations⟩ ⟨rebuilt.enrollment, some relations⟩ :=
    ⟨kept.slots, kept.recordLimit, kept.matchOrder, kept.cores, rfl⟩
  have readyProbe : CapacityGraph.Ready ⟨e, some relations⟩ := ⟨full, full.trans_le small, slots⟩
  have readyRebuilt := readyProbe.of_sameContent started
  have count : rebuilt.enrollment.count = e.count := kept.slots.count
  obtain ⟨⟨propagated, visited⟩, propagates, propagation⟩ :=
    readyRebuilt.propagate rfl count.symm
  have propagation : SameContent _ propagated := propagation
  obtain ⟨relations', given', length'⟩ := propagation.probeRelations rfl
  have propagatedCount : propagated.count = e.count := propagation.slots.count.trans count
  obtain ⟨refined, refines, refinement⟩ := foldlM_refineRelation_ok given' (by omega) probe visited
    build (List.range propagated.count) fun index listed => List.mem_range.mp listed
  have before := started.trans (propagation.trans refinement)
  have refinedCount : refined.count = e.count := before.slots.count
  obtain ⟨closed, closes, closure⟩ :=
    (readyProbe.of_sameContent before).synthesize refinedCount.symm
  have all := before.trans closure
  obtain ⟨last, probeRelations, length⟩ := all.probeRelations rfl
  have closedCount : closed.enrollment.count = e.count := all.slots.count
  obtain ⟨scores, scored⟩ := calculateCapacityScores_ok
    (closedCount.trans (full.trans all.slots.capacity.symm))
    (length.trans (given.trans closedCount.symm)) flagged metric
  refine ⟨⟨closed, closed.enrollment.chooseReplacement probe selectedIndex scores⟩, ?_, all,
    fun index chosen => ?_, last, probeRelations, length.trans given⟩
  rotate_left
  · exact closedCount ▸ chooseReplacement_inside chosen
  have admitted : ¬(e.count ≠ e.capacity ∨ selectedIndex ≥ e.count ∨
      relations.length ≠ e.count) := by
    push Not
    exact ⟨full, selected, given⟩
  have refines' : propagated.refineUnresolved probe visited (some build) = .ok refined := refines
  unfold selectCapacityReplacement
  rw [if_neg admitted, reconstructed]
  simp only [Bind.bind, Except.bind, propagates, refines', closes, probeRelations,
    Option.getD_some, scored]
  rfl

end Enrollment

end GoodixSpi.Chicago
