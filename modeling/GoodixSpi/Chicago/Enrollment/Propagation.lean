import GoodixSpi.Chicago.Enrollment.CapacityRelation

/-! Propagation marks the sub-templates that the probe reaches through relations of strength 1
to 42, and gives each of them a relation to the probe. -/

namespace GoodixSpi.Chicago

open Worklist SearchForest

/-- The unsigned test of the source on the strength of an edge. -/
lemma edge_strength_iff (strength : Int32) :
    ¬(strength - 1).toUInt32 > 41 ↔ 1 ≤ strength ∧ strength ≤ 42 := by
  have value : strength.toInt = if 2 * strength.toUInt32.toNat < 2 ^ 32
      then (strength.toUInt32.toNat : Int) else strength.toUInt32.toNat - 2 ^ 32 :=
    BitVec.toInt_eq_toNat_cond strength.toBitVec
  have below : (strength - 1).toUInt32.toNat = (2 ^ 32 - 1 + strength.toUInt32.toNat) % 2 ^ 32 := by
    rw [Int32.toUInt32_sub, UInt32.toNat_sub]
    rfl
  have bound := strength.toUInt32.toNat_lt
  rw [Int32.le_iff_toInt_le, Int32.le_iff_toInt_le, gt_iff_lt, UInt32.lt_iff_toNat_lt, below]
  show _ ↔ (1 : Int) ≤ _ ∧ _ ≤ (42 : Int)
  show ¬(41 : Nat) < _ ↔ _
  split at value <;> omega

namespace CapacityGraph

/-- An edge of the propagation. -/
def PropagationEdge (g : CapacityGraph) (a b : Nat) : Prop :=
  1 ≤ g.strength a b ∧ g.strength a b ≤ 42

/-- The sub-templates that the probe reaches; the path may pass the probe again. -/
def ReachedByProbe (g : CapacityGraph) (index : Nat) : Prop :=
  Relation.ReflTransGen (fun a b => b ≤ g.count ∧ g.PropagationEdge a b) g.count index

/-- The state in which the search starts. -/
def propagationStart (g : CapacityGraph) : Propagation :=
  ⟨g, false, fun _ => false, identityGroupTransform⟩

/-- How far `stack_count` grows in `propagate_capacity_relations`. -/
def propagationPeak (g : CapacityGraph) : Nat :=
  drainPeak (propagationMachine g.count) (descending g.count) (g.count + 1) g.propagationStart
    [g.count]

/-- `goodix_chicago_enrollment_propagate_capacity_relations`, with its `unresolved_count`. -/
def propagateCapacityRelations (self : CapacityGraph) (relationCount : Nat) :
    Except CapacityStop (CapacityGraph × Nat) := do
  let (graph, visited) ← self.propagate relationCount
  return (graph, graph.unresolvedCount visited)

end CapacityGraph

open CapacityGraph

section

variable {g : CapacityGraph}

lemma propagation_marks (probeNode : Nat) :
    Marks (propagationMachine probeNode) Propagation.visited where
  enter _ _ _ := rfl
  fresh st s c st' found := by
    simp only [propagationMachine] at found
    split at found
    · cases found
    · rename_i fresh
      simpa using fresh
  mark st s c st' found v := by
    simp only [propagationMachine] at found
    split at found
    · cases found
    · split at found
      · cases found
      · split at found
        · cases found
          rfl
        · split at found <;> cases found <;> rfl

/-- What a discovery needs, whatever it writes. -/
lemma propagation_isSome (probeNode : Nat) (st : Propagation) (source c : Nat) :
    ((propagationMachine probeNode).discover st source c).isSome = true ↔
      st.visited c = false ∧ st.graph.PropagationEdge source c := by
  rw [PropagationEdge, ← edge_strength_iff, CapacityGraph.strength]
  simp only [propagationMachine]
  split
  · rename_i marked
    simp [marked]
  · rename_i fresh
    split
    · rename_i far
      exact ⟨by rintro ⟨⟩, fun both => (both.2 far).elim⟩
    · rename_i near
      have unmarked : st.visited c = false := by simpa using fresh
      have found : ∀ {marked : Propagation}, (some marked).isSome = true ↔
          st.visited c = false ∧ ¬((st.graph.load source c).2 - 1).toUInt32 > 41 :=
        fun {_} => ⟨fun _ => ⟨unmarked, near⟩, fun _ => rfl⟩
      split
      · exact found
      · split <;> exact found

/-- What the search leaves of the graph: only relations of the probe to marked nodes that had
none are written, with strength 2. -/
structure Propagated (g : CapacityGraph) (st : Propagation) : Prop where
  clean : st.nullRelation = false
  enrollment : st.graph.enrollment = g.enrollment
  lengths : st.graph.probeRelations.map List.length = g.probeRelations.map List.length
  kept : ∀ i < g.count, st.visited i = false ∨ 1 ≤ g.strength g.count i →
    st.graph.stored g.count i = g.stored g.count i
  given : ∀ i < g.count, st.visited i = true → ¬1 ≤ g.strength g.count i →
    (g.stored g.count i).isSome = true →
    ∃ relation, st.graph.stored g.count i = some relation ∧ relation.inlierCount = 2

/-- After the probe was scanned all its neighbours are marked. -/
def ProbeScanned (g : CapacityGraph) (st : Propagation) : Prop :=
  ∀ c < g.count, g.PropagationEdge g.count c → st.visited c = true

lemma Propagated.count {st : Propagation} (h : Propagated g st) : st.graph.count = g.count :=
  congrArg Enrollment.count h.enrollment

/-- An edge to an unmarked node is what it was. -/
lemma Propagated.strength {st : Propagation} (h : Propagated g st) {source c : Nat}
    (inside : c < g.count) (fresh : st.visited c = false) :
    st.graph.strength source c = g.strength source c := by
  apply strength_congr
  by_cases probe : source = g.count
  · rw [probe]
    exact h.kept c inside (.inl fresh)
  · unfold stored
    rw [h.count, if_neg probe, if_neg (by omega), if_neg probe, if_neg (by omega), h.enrollment]

/-- A mark alone keeps everything, if the node had a relation already. -/
lemma Propagated.mark {st : Propagation} (h : Propagated g st) {c : Nat}
    (had : 1 ≤ g.strength g.count c) :
    Propagated g { st with visited := markVisited st.visited c } where
  clean := h.clean
  enrollment := h.enrollment
  lengths := h.lengths
  kept i inside which := by
    refine h.kept i inside ?_
    rcases which with unmarked | had
    · exact .inl (Bool.or_eq_false_iff.mp unmarked).1
    · exact .inr had
  given i inside marked hadNone present := by
    refine h.given i inside ?_ hadNone present
    have other : i ≠ c := by
      rintro rfl
      exact hadNone had
    simpa [markVisited, other] using marked

/-- A store to the probe always finds its slot. -/
lemma store_probe {c : Nat} (other : c ≠ g.count) (transform : Transform) (strength : Int32) :
    g.store g.count c transform strength =
      some (g.setProbeRelation c ⟨strength, invertGroupTransform transform⟩) := by
  rw [store, if_neg (Ne.symm other), if_pos rfl]

lemma Propagated.store {st : Propagation} (h : Propagated g st) {c : Nat} (inside : c < g.count)
    (fresh : st.visited c = false) (hadNone : ¬1 ≤ g.strength g.count c) (transform : Transform) :
    Propagated g { st with
      visited := markVisited st.visited c
      graph := st.graph.setProbeRelation c ⟨2, transform⟩ } := by
  have stores := setProbeRelation_stores (g := st.graph) c ⟨2, transform⟩
  rw [h.count] at stores
  have frame : ∀ i < g.count, i ≠ c →
      (st.graph.setProbeRelation c ⟨2, transform⟩).stored g.count i =
        st.graph.stored g.count i := by
    intro i i_lt other
    have counted := h.count
    apply stores.frame <;> first | omega | skip
    unfold IsPair
    omega
  refine ⟨h.clean, h.enrollment, stores.probe.trans h.lengths, ?_, ?_⟩
  · intro i i_lt which
    have other : i ≠ c := by
      rintro rfl
      rcases which with unmarked | had
      · simp [markVisited] at unmarked
      · exact hadNone had
    rw [frame i i_lt other]
    exact h.kept i i_lt (which.imp_left fun unmarked => (Bool.or_eq_false_iff.mp unmarked).1)
  · intro i i_lt marked unrelated present
    by_cases here : i = c
    · subst here
      rw [← h.kept i i_lt (.inl fresh)] at present
      exact stores.pair present
    · rw [frame i i_lt here]
      exact h.given i i_lt (by simpa [markVisited, here] using marked) unrelated present

/-- While the probe is scanned nothing is written. -/
structure Untouched (g : CapacityGraph) (st : Propagation) : Prop where
  graph : st.graph = g
  clean : st.nullRelation = false
  joined : ∀ i, st.visited i = true → g.PropagationEdge g.count i

lemma Untouched.propagated {st : Propagation} (h : Untouched g st) : Propagated g st where
  clean := h.clean
  enrollment := by rw [h.graph]
  lengths := by rw [h.graph]
  kept i _ _ := by rw [h.graph]
  given i _ marked unrelated _ := (unrelated (h.joined i marked).1).elim

lemma propagation_explores_probe :
    Explores (propagationMachine g.count) Propagation.visited g.PropagationEdge (descending g.count)
      g.count g.count (Untouched g) where
  enter _ inv := ⟨inv.graph, inv.clean, inv.joined⟩
  discover st c st' _ _ inv found := by
    have mark := (propagation_marks g.count).mark st g.count c st' found
    obtain ⟨-, edge⟩ := (propagation_isSome g.count st g.count c).mp (by rw [found]; rfl)
    rw [inv.graph] at edge
    have joined : ∀ i, st'.visited i = true → g.PropagationEdge g.count i := by
      intro i marked
      rw [mark, Bool.or_eq_true, beq_iff_eq] at marked
      rcases marked with earlier | rfl
      · exact inv.joined i earlier
      · exact edge
    simp only [propagationMachine, true_or, if_true] at found
    split at found
    · cases found
    · split at found
      · cases found
      · cases found
        exact ⟨inv.graph, inv.clean, joined⟩
  joined st c _ _ inv := by
    rw [propagation_isSome, inv.graph]

lemma propagation_explores (source : Nat) :
    Explores (propagationMachine g.count) Propagation.visited g.PropagationEdge (descending g.count)
      g.count source fun st => Propagated g st ∧ ProbeScanned g st where
  enter st inv := ⟨⟨inv.1.clean, inv.1.enrollment, inv.1.lengths, inv.1.kept, inv.1.given⟩, inv.2⟩
  discover st c st' listed _ inv found := by
    obtain ⟨h, scanned⟩ := inv
    have inside : c < g.count := mem_descending.mp listed
    have mark := (propagation_marks g.count).mark st source c st' found
    obtain ⟨fresh, edge⟩ := (propagation_isSome g.count st source c).mp (by rw [found]; rfl)
    have later : ProbeScanned g st' := by
      intro v v_lt joined
      rw [mark, scanned v v_lt joined, Bool.true_or]
    refine ⟨?_, later⟩
    rw [PropagationEdge, h.strength inside fresh] at edge
    have existing : st.graph.strength g.count c = g.strength g.count c := h.strength inside fresh
    -- a node that the probe is joined to was marked when the probe was scanned
    have far : 1 ≤ g.strength g.count c → 2 ≤ g.strength g.count c := by
      intro had
      by_contra small
      have joined : g.PropagationEdge g.count c := by
        refine ⟨had, ?_⟩
        rw [Int32.le_iff_toInt_le] at small ⊢
        have two : (2 : Int32).toInt = 2 := rfl
        have top : (42 : Int32).toInt = 42 := rfl
        omega
      rw [scanned c inside joined] at fresh
      cases fresh
    simp only [propagationMachine] at found
    split at found
    · cases found
    · split at found
      · cases found
      · split at found
        · rename_i direct
          cases found
          refine h.mark ?_
          rcases direct with rfl | strong
          · exact edge.1
          · have strong : 2 ≤ g.strength g.count c := existing ▸ strong
            exact Int32.le_trans (by decide) strong
        · rename_i indirect
          rw [not_or] at indirect
          have hadNone : ¬1 ≤ g.strength g.count c := by
            intro had
            have strong : 2 ≤ st.graph.strength g.count c := existing.symm ▸ far had
            exact indirect.2 strong
          have counted := h.count
          rw [← counted, store_probe (by omega)] at found
          cases found
          exact h.store inside fresh hadNone _
  joined st c listed known inv := by
    have inside : c < g.count := mem_descending.mp listed
    rw [propagation_isSome]
    constructor
    · rintro ⟨fresh, edge⟩
      rw [PropagationEdge, inv.1.strength inside fresh] at edge
      exact ⟨fresh, edge⟩
    · rintro ⟨fresh, edge⟩
      rw [PropagationEdge, inv.1.strength inside fresh]
      exact ⟨fresh, edge⟩

/-- The whole search: the probe first, then what it reaches. -/
lemma propagation_drain {st : Propagation} (inv : Untouched g st) (fresh : ∀ v, st.visited v = false) :
    let done := drain (propagationMachine g.count) (descending g.count) (g.count + 1) st [g.count]
    Frontier Propagation.visited g.PropagationEdge (descending g.count) g.count done [] ∧
      Propagated g done := by
  have marks := propagation_marks g.count
  have unmarked : ∀ v, st.visited v = true → v = g.count := fun v marked => by simp [fresh] at marked
  obtain ⟨⟨frontier, untouched⟩, scanned⟩ := pop_frontier marks propagation_explores_probe
    (Frontier.root unmarked) inv
  have balance := pop_balance marks (nodup_descending g.count) st g.count []
  have few : unseen Propagation.visited (descending g.count) st ≤ g.count := by
    have bound := List.countP_le_length (p := fun v => !st.visited v) (l := descending g.count)
    simpa [descending, unseen] using bound
  have first : ProbeScanned g (pop (propagationMachine g.count) (descending g.count) st g.count []).1 :=
    fun c inside joined => scanned c (mem_descending.mpr inside) joined
  obtain ⟨reached, propagated, -⟩ := drain_frontier marks (nodup_descending g.count)
    propagation_explores (balance.le.trans few) frontier
    ⟨untouched.propagated, first⟩
  exact ⟨reached, propagated⟩

/-- The known sub-templates are those that the probe reaches. -/
lemma reachedByProbe_iff {index : Nat} (inside : index < g.count) :
    Relation.ReflTransGen (Step g.PropagationEdge (descending g.count)) g.count index ↔
      g.ReachedByProbe index := by
  have through : ∀ v, g.ReachedByProbe v → v = g.count ∨
      Relation.ReflTransGen (Step g.PropagationEdge (descending g.count)) g.count v := by
    intro v path
    induction path with
    | refl => exact .inl rfl
    | tail _ step ih =>
      rcases Nat.lt_or_eq_of_le step.1 with below | probe
      · have next : Step g.PropagationEdge (descending g.count) _ _ :=
          ⟨mem_descending.mpr below, step.2⟩
        rcases ih with rfl | earlier
        · exact .inr (.single next)
        · exact .inr (earlier.tail next)
      · exact .inl probe
  constructor
  · apply Relation.ReflTransGen.mono
    exact fun a b step => ⟨(mem_descending.mp step.1).le, step.2⟩
  · intro path
    exact (through index path).resolve_left (by omega)

lemma stored_probe {relations : List Relation} (probe : g.probeRelations = some relations)
    (index : Nat) : g.stored g.count index = relations[index]? := by
  rw [stored, if_pos rfl, probe, Option.bind_some]

lemma propagationPeak_le : g.propagationPeak ≤ g.count + 1 := by
  have bound := drainPeak_le (propagation_marks g.count) (nodup_descending g.count) (g.count + 1)
    g.propagationStart [g.count]
  have few := List.countP_le_length (p := fun v => !g.propagationStart.visited v)
    (l := descending g.count)
  simp only [descending, List.length_reverse, List.length_range] at few
  exact bound.trans (Nat.add_le_add_right few 1)

/-- Propagation marks exactly the sub-templates that the probe reaches, and writes only their
missing relations to the probe. -/
theorem propagate_marks_reached (relations : List Relation)
    (full : g.count = g.enrollment.capacity) (small : g.count ≤ enrollmentCapacity)
    (probe : g.probeRelations = some relations) (matching : relations.length = g.count) :
    g.propagationPeak ≤ g.enrollment.capacity + 1 ∧
    ∃ after visited propagated unresolved,
      g.propagate relations.length = .ok (after, visited) ∧
      g.propagateCapacityRelations relations.length = .ok (after, unresolved) ∧
      after.enrollment = g.enrollment ∧ after.probeRelations = some propagated ∧
      propagated.length = relations.length ∧
      (∀ i < g.count, visited i = true ↔ g.ReachedByProbe i) ∧
      (∀ i relation, relations[i]? = some relation → visited i = true →
        1 ≤ relation.inlierCount → propagated[i]? = some relation) ∧
      (∀ i relation, relations[i]? = some relation → visited i = true →
        ¬1 ≤ relation.inlierCount → propagated[i]?.map Relation.inlierCount = some 2) ∧
      (∀ i < g.count, visited i = false → propagated[i]? = relations[i]?) ∧
      unresolved = ((List.range g.count).filter fun i =>
        visited i = false ∧ propagated[i]?.map Relation.inlierCount ≠ some (-2)).length := by
  refine ⟨full ▸ propagationPeak_le, ?_⟩
  have admitted : g.admits relations.length = true := by
    simp only [admits, Bool.and_eq_true, beq_iff_eq, decide_eq_true_eq]
    exact ⟨⟨full, small⟩, matching⟩
  have given : ¬(g.probeRelations.isNone = true ∨ g.admits relations.length = false) := by
    simp [probe, admitted]
  have untouched : Untouched g g.propagationStart := ⟨rfl, rfl, by simp [propagationStart]⟩
  obtain ⟨reached, propagated⟩ := propagation_drain untouched (fun _ => rfl)
  set done := drain (propagationMachine g.count) (descending g.count) (g.count + 1)
    g.propagationStart [g.count] with searched
  have searches : g.propagate relations.length = .ok (done.graph, done.visited) := by
    unfold propagate
    rw [if_neg given]
    show (if done.nullRelation = true then _ else _) = _
    rw [propagated.clean, if_neg Bool.false_ne_true]
    rfl
  obtain ⟨after, array, length⟩ : ∃ after, done.graph.probeRelations = some after ∧
      after.length = relations.length := by
    have lengths := propagated.lengths
    rw [probe, Option.map_some] at lengths
    exact Option.map_eq_some_iff.mp lengths
  have counted := propagated.count
  have cell : ∀ i, done.graph.stored g.count i = after[i]? := by
    intro i
    rw [← counted]
    exact stored_probe array i
  have strength : ∀ i relation, i < g.count → relations[i]? = some relation →
      g.strength g.count i = relation.inlierCount := by
    intro i relation inside found
    rw [strength_eq (by omega), stored_probe probe, found]
    rfl
  have bounded : ∀ i relation, relations[i]? = some relation → i < g.count := by
    intro i relation found
    rw [← matching]
    exact (List.getElem?_eq_some_iff.mp found).1
  refine ⟨done.graph, done.visited, after, done.graph.unresolvedCount done.visited, searches, ?_,
    propagated.enrollment, array, length, ?_, ?_, ?_, ?_, ?_⟩
  · rw [propagateCapacityRelations, searches]
    rfl
  · intro i inside
    rw [← reachedByProbe_iff inside, ← reached.reached]
    exact ⟨.inr, fun known => known.resolve_left (by omega)⟩
  · intro i relation found marked had
    have inside := bounded i relation found
    rw [← cell, propagated.kept i inside (.inr (by rwa [strength i relation inside found])),
      stored_probe probe, found]
  · intro i relation found marked hadNone
    have inside := bounded i relation found
    obtain ⟨given, here, two⟩ := propagated.given i inside marked
      (by rwa [strength i relation inside found]) (by rw [stored_probe probe, found]; rfl)
    rw [← cell, here, Option.map_some, two]
  · intro i inside unmarked
    rw [← cell, propagated.kept i inside (.inl unmarked), stored_probe probe]
  · rw [unresolvedCount, counted, List.countP_eq_length_filter]
    congr 1
    apply List.filter_congr
    intro i listed
    have inside : i < g.count := List.mem_range.mp listed
    have found : i < after.length := by omega
    have load : (done.graph.load i g.count).2 = after[i].inlierCount := by
      show done.graph.strength i g.count = _
      rw [strength_comm, strength_eq (by omega), cell, List.getElem?_eq_getElem found]
      rfl
    rw [load, List.getElem?_eq_getElem found, Option.map_some]
    simp [bne, beq_eq_decide]

/-- Two copies of one sample and a probe that is joined to the first. -/
def pairGraph : CapacityGraph where
  enrollment := pairGallery [sentinelRelation, ⟨3, identityGroupTransform⟩]
  probeRelations := some [⟨5, identityGroupTransform⟩, ⟨0, identityGroupTransform⟩]

theorem propagate_marks_reached_pair :
    pairGraph.propagationPeak ≤ 3 ∧
      ∃ after visited, pairGraph.propagate 2 = .ok (after, visited) ∧
        (visited 1 = true ↔ pairGraph.ReachedByProbe 1) := by
  obtain ⟨peak, after, visited, -, -, searched, -, -, -, -, reached, -⟩ :=
    propagate_marks_reached (g := pairGraph) _ rfl (by decide) rfl rfl
  exact ⟨peak, after, visited, searched, reached 1 (by decide)⟩

end

end GoodixSpi.Chicago
