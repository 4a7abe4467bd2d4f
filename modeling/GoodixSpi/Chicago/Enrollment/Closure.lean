import GoodixSpi.Chicago.Enrollment.CapacityRelation

/-! Closure of the capacity graph. The search of a root rewrites the graph that it walks, but it
writes only between its root and nodes that the root reaches and has no relation to. So the
edges that it follows are those the graph had when the root was taken, connectivity never
changes, and a root without anything left to write leaves the graph as it is. -/

namespace GoodixSpi.Chicago

open Worklist SearchForest Enrollment

/-- A gallery without its relations and the group states of its sub-templates. -/
def Enrollment.besidesRelations (e : Enrollment) : Enrollment :=
  { e with
    relations := []
    subtemplates := e.subtemplates.map fun subtemplate => { subtemplate with groupState := 0 } }

namespace CapacityGraph

/-- An edge of the closure. -/
def Related (g : CapacityGraph) (a b : Nat) : Prop := 1 ≤ g.strength a b

instance (g : CapacityGraph) (a b : Nat) : Decidable (g.Related a b) :=
  inferInstanceAs (Decidable (_ ≤ _))

/-- Two nodes that a path of relations joins; node `count` is the probe. -/
def Connected (g : CapacityGraph) (a b : Nat) : Prop :=
  Relation.ReflTransGen (fun a b => b ≤ g.count ∧ g.Related a b) a b

/-- No node that the root reaches is left without a relation to it. -/
def ClosedAt (g : CapacityGraph) (root : Nat) : Prop :=
  ∀ c ≤ g.count, c ≠ root → g.Connected root c → g.Related root c

/-- What the closure may change: it adds relations of strength 2 between connected nodes. -/
structure Extends (before after : CapacityGraph) : Prop where
  slots : SameSlots before.enrollment after.enrollment
  besides : after.enrollment.besidesRelations = before.enrollment.besidesRelations
  probe : after.probeRelations.map List.length = before.probeRelations.map List.length
  kept : ∀ a ≤ before.count, ∀ b ≤ before.count, a ≠ b →
    before.Related a b ∨ ¬before.Connected a b → after.stored a b = before.stored a b
  changed : ∀ a ≤ before.count, ∀ b ≤ before.count, a ≠ b →
    after.stored a b ≠ before.stored a b → after.strength a b = 2

variable {g g' g'' : CapacityGraph}

lemma shaped_of_slots (slots : SameSlots g.enrollment g'.enrollment)
    (lengths : g'.probeRelations.map List.length = g.probeRelations.map List.length)
    (shaped : g.Shaped) : g'.Shaped where
  triangular := shaped.triangular.of_sameSlots slots
  probe relations given := by
    rw [given, Option.map_some] at lengths
    obtain ⟨relations', earlier, same⟩ := Option.map_eq_some_iff.mp lengths.symm
    rw [← same, shaped.probe relations' earlier]
    exact slots.count.symm

/-! ### Connectivity -/

lemma related_comm {a b : Nat} : g.Related a b ↔ g.Related b a := by
  rw [Related, Related, strength_comm]

lemma Related.apart {a b : Nat} (related : g.Related a b) : a ≠ b := by
  rintro rfl
  rw [Related, strength_self] at related
  exact absurd related (by decide)

lemma Related.stored_isSome {a b : Nat} (related : g.Related a b) :
    (g.stored a b).isSome = true := by
  have apart := related.apart
  rw [Related, strength_eq apart] at related
  cases found : g.stored a b with
  | none =>
    rw [found] at related
    exact absurd related (by decide)
  | some _ => rfl

lemma Connected.inside {a b : Nat} (a_le : a ≤ g.count) (path : g.Connected a b) :
    b ≤ g.count := by
  cases path with
  | refl => exact a_le
  | tail _ step => exact step.1

lemma Connected.symm {a b : Nat} (a_le : a ≤ g.count) (path : g.Connected a b) :
    g.Connected b a := by
  induction path with
  | refl => exact .refl
  | tail path step ih => exact .head ⟨Connected.inside a_le path, related_comm.mp step.2⟩ ih

/-- The steps of the search are those of a path. -/
lemma connected_iff {a b : Nat} :
    Relation.ReflTransGen (Step g.Related (descending (g.count + 1))) a b ↔ g.Connected a b := by
  have same : Step g.Related (descending (g.count + 1)) = fun a b => b ≤ g.count ∧ g.Related a b := by
    funext a b
    rw [Step, mem_descending, Nat.lt_succ_iff]
  rw [same, Connected]

lemma Extends.count (h : Extends g g') : g'.count = g.count := h.slots.count

lemma Extends.refl (g : CapacityGraph) : Extends g g where
  slots := .refl _
  besides := rfl
  probe := rfl
  kept _ _ _ _ _ _ := rfl
  changed _ _ _ _ _ differ := absurd rfl differ

lemma Extends.related (h : Extends g g') {a b : Nat} (a_le : a ≤ g.count) (b_le : b ≤ g.count)
    (related : g.Related a b) : g'.Related a b := by
  have same := h.kept a a_le b b_le related.apart (.inl related)
  rwa [Related, strength_congr same]

/-- An added relation joins nodes that were connected before. -/
lemma Extends.connected_iff (h : Extends g g') {a b : Nat} (a_le : a ≤ g.count) :
    g'.Connected a b ↔ g.Connected a b := by
  constructor
  · intro path
    induction path with
    | refl => exact .refl
    | @tail x y path step ih =>
      have x_le : x ≤ g.count := ih.inside a_le
      have y_le : y ≤ g.count := h.count ▸ step.1
      by_contra apart
      have joined : ¬g.Connected x y := fun next => apart (ih.trans next)
      have same := h.kept x x_le y y_le step.2.apart (.inr joined)
      have related : g.Related x y := by
        rw [Related, ← strength_congr same]
        exact step.2
      exact joined (.single ⟨y_le, related⟩)
  · intro path
    induction path with
    | refl => exact .refl
    | tail path step ih =>
      have next := h.related (Connected.inside a_le path) step.1 step.2
      exact ih.tail ⟨h.count ▸ step.1, next⟩

lemma Extends.trans (first : Extends g g') (second : Extends g' g'') : Extends g g'' where
  slots := first.slots.trans second.slots
  besides := second.besides.trans first.besides
  probe := second.probe.trans first.probe
  kept a a_le b b_le apart which := by
    have here := first.kept a a_le b b_le apart which
    have counted := first.count
    have later : g'.Related a b ∨ ¬g'.Connected a b := by
      rw [first.connected_iff a_le]
      exact which.imp_left (first.related a_le b_le)
    rw [second.kept a (by omega) b (by omega) apart later, here]
  changed a a_le b b_le apart differ := by
    have counted := first.count
    by_cases same : g''.stored a b = g'.stored a b
    · rw [strength_congr same]
      exact first.changed a a_le b b_le apart (same ▸ differ)
    · exact second.changed a (by omega) b (by omega) apart same

lemma Extends.closedAt (h : Extends g g') {root : Nat} (inside : root ≤ g.count)
    (closed : g.ClosedAt root) : g'.ClosedAt root := by
  intro c c_le other path
  have counted := h.count
  have c_le' : c ≤ g.count := by omega
  exact h.related inside c_le' (closed c c_le' other ((h.connected_iff inside).mp path))

lemma Extends.shaped (h : Extends g g') (shaped : g.Shaped) : g'.Shaped :=
  shaped_of_slots h.slots h.probe shaped

/-! ### One store -/

lemma besides_joinGroups (root candidate : Nat) :
    (g.joinGroups root candidate).enrollment.besidesRelations = g.enrollment.besidesRelations := by
  unfold joinGroups
  split
  · simp only [besidesRelations, Enrollment.mk.injEq, true_and, and_true]
    apply List.ext_getElem?
    intro i
    simp only [List.getElem?_map, List.getElem?_mapIdx, Option.map_map]
    congr 1
    funext subtemplate
    simp only [Function.comp_apply]
    split <;> rfl
  · rfl

lemma store_besides {first second : Nat} {transform : Transform} {strength : Int32}
    (found : g.store first second transform strength = some g') :
    g'.enrollment.besidesRelations = g.enrollment.besidesRelations := by
  unfold store at found
  dsimp only at found
  split at found
  · cases found
    rfl
  · split at found
    · cases found
      rfl
    · split at found
      · cases found
        rfl
      · split at found
        all_goals
          obtain ⟨slot, -, rfl⟩ := Option.map_eq_some_iff.mp found
          rfl

lemma stored_joinGroups (root candidate a b : Nat) :
    (g.joinGroups root candidate).stored a b = g.stored a b := by
  have slots := sameSlots_joinGroups (g := g) root candidate
  have table : (g.joinGroups root candidate).enrollment.relations = g.enrollment.relations := by
    unfold joinGroups
    split <;> rfl
  have probe : (g.joinGroups root candidate).probeRelations = g.probeRelations := by
    unfold joinGroups
    split <;> rfl
  have counted : (g.joinGroups root candidate).count = g.count := slots.count
  have between : (g.joinGroups root candidate).enrollment.relationOf a b =
      g.enrollment.relationOf a b := by
    rw [relationOf, relationOf, slots.between, table]
  rw [stored, stored, counted, probe, between]

/-- A store that also joins the groups. -/
lemma Stores.joinGroups {a b : Nat} {strength : Int32} (stores : Stores g g' a b strength)
    (root candidate : Nat) : Stores g (g'.joinGroups root candidate) a b strength where
  slots := stores.slots.trans (sameSlots_joinGroups root candidate)
  probe := by
    rw [← stores.probe]
    unfold CapacityGraph.joinGroups
    split <;> rfl
  pair given := by
    rw [stored_joinGroups]
    exact stores.pair given
  absent missing := by
    rw [stored_joinGroups]
    exact stores.absent missing
  frame x y x_le y_le apart other := by
    rw [stored_joinGroups]
    exact stores.frame x y x_le y_le apart other

end CapacityGraph

open CapacityGraph

section Search

variable {g : CapacityGraph} {root : Nat}

lemma synthesis_marks (root : Nat) : Marks (synthesisMachine root) Synthesis.visited where
  enter _ _ _ := rfl
  fresh st s c st' found := by
    simp only [synthesisMachine] at found
    split at found
    · cases found
    · rename_i fresh
      simpa using fresh
  mark st s c st' found v := by
    simp only [synthesisMachine] at found
    split at found
    · cases found
    · split at found
      · cases found
      · split at found
        · cases found
          rfl
        · split at found <;> cases found <;> rfl

/-- What a discovery needs, whatever it writes. -/
lemma synthesis_isSome (root : Nat) (st : Synthesis) (source c : Nat) :
    ((synthesisMachine root).discover st source c).isSome = true ↔
      st.visited c = false ∧ st.graph.Related source c := by
  rw [Related, ← Int32.not_lt, CapacityGraph.strength]
  simp only [synthesisMachine]
  split
  · rename_i marked
    simp [marked]
  · rename_i fresh
    have unmarked : st.visited c = false := by simpa using fresh
    split
    · rename_i weak
      exact ⟨by rintro ⟨⟩, fun both => (both.2 weak).elim⟩
    · rename_i strong
      split
      · exact ⟨fun _ => ⟨unmarked, strong⟩, fun _ => rfl⟩
      · split <;> exact ⟨fun _ => ⟨unmarked, strong⟩, fun _ => rfl⟩

/-- While the root itself is scanned nothing is written. -/
structure RootScan (g : CapacityGraph) (root : Nat) (st : Synthesis) : Prop where
  graph : st.graph = g
  clean : st.nullRelation = false
  marked : st.visited root = true
  joined : ∀ c, st.visited c = true → c = root ∨ c ≤ g.count ∧ g.Related root c

/-- After that the neighbours of the root are marked, and what is written gives its root a
relation to a marked node that is no neighbour. -/
structure Closing (g : CapacityGraph) (root : Nat) (st : Synthesis) : Prop where
  clean : st.nullRelation = false
  slots : SameSlots g.enrollment st.graph.enrollment
  besides : st.graph.enrollment.besidesRelations = g.enrollment.besidesRelations
  probe : st.graph.probeRelations.map List.length = g.probeRelations.map List.length
  marked : st.visited root = true
  inside : ∀ c, st.visited c = true → c ≤ g.count
  scanned : ∀ c ≤ g.count, g.Related root c → st.visited c = true
  frame : ∀ a ≤ g.count, ∀ b ≤ g.count, a ≠ b →
    (∀ c, IsPair root c a b → st.visited c = false ∨ g.Related root c) →
    st.graph.stored a b = g.stored a b
  given : ∀ c, c ≠ root → st.visited c = true → ¬g.Related root c →
    ∃ relation, st.graph.stored root c = some relation ∧ relation.inlierCount = 2
  still : (∀ c, st.visited c = true → c = root ∨ g.Related root c) → st.graph = g

lemma RootScan.closing {st : Synthesis} (h : RootScan g root st) (root_le : root ≤ g.count)
    (scanned : ∀ c ≤ g.count, g.Related root c → st.visited c = true) : Closing g root st where
  clean := h.clean
  slots := by
    rw [h.graph]
    exact .refl _
  besides := by rw [h.graph]
  probe := by rw [h.graph]
  marked := h.marked
  inside c marked := (h.joined c marked).elim (fun same => same ▸ root_le) fun joined => joined.1
  scanned := scanned
  frame a _ b _ _ _ := by rw [h.graph]
  given c other marked unrelated :=
    absurd ((h.joined c marked).resolve_left other).2 unrelated
  still _ := h.graph

lemma Closing.count {st : Synthesis} (h : Closing g root st) : st.graph.count = g.count :=
  h.slots.count

/-- The relations of an unmarked node are those of the start. -/
lemma Closing.fresh {st : Synthesis} (h : Closing g root st) {source c : Nat}
    (source_le : source ≤ g.count) (c_le : c ≤ g.count) (known : st.visited source = true)
    (fresh : st.visited c = false) : st.graph.stored source c = g.stored source c := by
  refine h.frame source source_le c c_le ?_ ?_
  · rintro rfl
    rw [known] at fresh
    cases fresh
  · rintro x (⟨-, rfl⟩ | ⟨-, rfl⟩)
    · exact .inl fresh
    · rw [h.marked] at fresh
      cases fresh

/-- A node with a relation to anything has a slot for one to each sub-template. -/
lemma CapacityGraph.Shaped.slot (shaped : g.Shaped) (root_lt : root < g.count) {source c : Nat}
    (c_le : c ≤ g.count) (other : c ≠ root) (edge : g.Related source c) :
    (g.stored root c).isSome = true := by
  by_cases probe : c = g.count
  · have stored := edge.stored_isSome
    have far : source ≠ g.count := probe ▸ edge.apart
    rw [CapacityGraph.stored, if_neg far, if_pos probe] at stored
    obtain ⟨relation, found⟩ := Option.isSome_iff_exists.mp stored
    obtain ⟨relations, array, -⟩ := Option.bind_eq_some_iff.mp found
    have length := shaped.probe relations array
    rw [CapacityGraph.stored, if_neg (by omega), if_pos probe, array, Option.bind_some,
      List.getElem?_eq_getElem (by omega)]
    rfl
  · have c_lt : c < g.count := by omega
    have small : triangleBase (max root c + 1) ≤ triangleBase g.count :=
      triangleBase_mono (max_lt root_lt c_lt)
    have length : triangleBase g.count ≤ g.enrollment.relations.length :=
      shaped.triangular.relations
    rw [triangleBase_succ (by omega)] at small
    rw [CapacityGraph.stored, if_neg (by omega), if_neg probe,
      shaped.triangular.relationOf root_lt c_lt other.symm, List.getElem?_eq_getElem]
    · rfl
    · omega

/-- A node that is discovered from another source than the root gets its relation. -/
lemma Closing.store {st : Synthesis} (h : Closing g root st) (shaped : g.Shaped)
    (root_lt : root < g.count) {source c : Nat} (c_le : c ≤ g.count)
    (fresh : st.visited c = false) (edge : g.Related source c) (transform : Transform) :
    ∃ graph, st.graph.store root c transform 2 = some graph ∧ ∀ st' : Synthesis,
      st'.visited = markVisited st.visited c → st'.nullRelation = false →
      st'.graph = (if c < graph.count then graph.joinGroups root c else graph) →
      Closing g root st' := by
  have other : c ≠ root := by
    rintro rfl
    rw [h.marked] at fresh
    cases fresh
  have unrelated : ¬g.Related root c := fun related => by
    rw [h.scanned c c_le related] at fresh
    cases fresh
  have counted := h.count
  obtain ⟨graph, found, stores⟩ := store_stores (shaped_of_slots h.slots h.probe shaped)
    (by omega : root ≤ st.graph.count) (by omega : c ≤ st.graph.count) other.symm transform 2
  have besides := store_besides found
  refine ⟨graph, found, ?_⟩
  intro st' visited clean written
  obtain ⟨stores', besides'⟩ : Stores st.graph st'.graph root c 2 ∧
      st'.graph.enrollment.besidesRelations = st.graph.enrollment.besidesRelations := by
    rw [written]
    by_cases gallery : c < graph.count
    · rw [if_pos gallery, besides_joinGroups]
      exact ⟨stores.joinGroups root c, besides⟩
    · rw [if_neg gallery]
      exact ⟨stores, besides⟩
  have marks : ∀ v, st'.visited v = (st.visited v || v == c) := fun v => by rw [visited]; rfl
  refine ⟨clean, h.slots.trans stores'.slots, besides'.trans h.besides, stores'.probe.trans h.probe,
    ?_, ?_, ?_, ?_, ?_, ?_⟩
  · rw [marks, h.marked, Bool.true_or]
  · intro v marked
    rw [marks, Bool.or_eq_true, beq_iff_eq] at marked
    exact marked.elim (h.inside v) fun same => same ▸ c_le
  · intro v v_le related
    rw [marks, h.scanned v v_le related, Bool.true_or]
  · intro a a_le b b_le apart untouched
    have elsewhere : ¬IsPair root c a b := by
      intro pair
      rcases untouched c pair with unmarked | related
      · simp [marks] at unmarked
      · exact unrelated related
    rw [stores'.frame a b (by omega) (by omega) apart elsewhere]
    refine h.frame a a_le b b_le apart fun v pair => (untouched v pair).imp_left ?_
    intro unmarked
    rw [marks] at unmarked
    exact (Bool.or_eq_false_iff.mp unmarked).1
  · intro v away marked unjoined
    by_cases here : v = c
    · subst here
      apply stores'.pair
      rw [h.fresh root_lt.le c_le h.marked fresh]
      exact shaped.slot root_lt c_le other edge
    · have earlier : st.visited v = true := by simpa [marks, here] using marked
      have v_le := h.inside v earlier
      rw [stores'.frame root v (by omega) (by omega) away.symm]
      · exact h.given v away earlier unjoined
      · rintro (⟨-, same⟩ | ⟨same, -⟩)
        · exact here same
        · exact other same.symm
  · intro joined
    exact (joined c (by simp [marks])).elim (fun same => (other same).elim)
      fun related => (unrelated related).elim

lemma synthesis_explores_root :
    Explores (synthesisMachine root) Synthesis.visited g.Related (descending (g.count + 1)) root
      root (RootScan g root) where
  enter _ h := ⟨h.graph, h.clean, h.marked, h.joined⟩
  discover st c st' listed _ h found := by
    have mark := (synthesis_marks root).mark st root c st' found
    obtain ⟨-, edge⟩ := (synthesis_isSome root st root c).mp (by rw [found]; rfl)
    rw [h.graph] at edge
    have marked : st'.visited root = true := by rw [mark, h.marked, Bool.true_or]
    have joined : ∀ v, st'.visited v = true → v = root ∨ v ≤ g.count ∧ g.Related root v := by
      intro v marked
      rw [mark, Bool.or_eq_true, beq_iff_eq] at marked
      rcases marked with earlier | rfl
      · exact h.joined v earlier
      · exact .inr ⟨Nat.le_of_lt_succ (mem_descending.mp listed), edge⟩
    simp only [synthesisMachine, true_or, if_true] at found
    split at found
    · cases found
    · split at found
      · cases found
      · cases found
        exact ⟨h.graph, h.clean, marked, joined⟩
  joined st c _ _ h := by rw [synthesis_isSome, h.graph]

lemma synthesis_explores (shaped : g.Shaped) (root_lt : root < g.count) (source : Nat) :
    Explores (synthesisMachine root) Synthesis.visited g.Related (descending (g.count + 1)) root
      source (Closing g root) where
  enter st h := ⟨h.clean, h.slots, h.besides, h.probe, h.marked, h.inside, h.scanned, h.frame,
    h.given, h.still⟩
  discover st c st' listed known h found := by
    have c_le : c ≤ g.count := Nat.le_of_lt_succ (mem_descending.mp listed)
    have source_marked : st.visited source = true := known.elim (fun same => same ▸ h.marked) id
    have source_le := h.inside source source_marked
    obtain ⟨fresh, edge⟩ := (synthesis_isSome root st source c).mp (by rw [found]; rfl)
    rw [Related, strength_congr (h.fresh source_le c_le source_marked fresh)] at edge
    -- the neighbours of the root are marked, so this one has no relation to overwrite
    have unrelated : ¬g.Related root c := fun related => by
      rw [h.scanned c c_le related] at fresh
      cases fresh
    have away : root ≠ source := by
      rintro rfl
      exact unrelated edge
    have existing : st.graph.strength root c < 1 := by
      rw [strength_congr (h.fresh root_lt.le c_le h.marked fresh)]
      exact Int32.not_le.mp unrelated
    simp only [synthesisMachine] at found
    split at found
    · cases found
    · split at found
      · cases found
      · split at found
        · rename_i held
          rcases held with same | strong | ⟨two, -⟩
          · exact (away same).elim
          · have strong : 2 < st.graph.strength root c := strong
            exact absurd (Int32.lt_trans strong existing) (by decide)
          · have two : st.graph.strength root c = 2 := two
            rw [two] at existing
            exact absurd existing (by decide)
        · obtain ⟨graph, stored, closing⟩ := h.store shaped root_lt c_le fresh edge
            (composeGroupTransform st.sourceToRoot (st.graph.load source c).1)
          rw [stored] at found
          cases found
          exact closing _ rfl h.clean rfl
  joined st c listed known h := by
    have c_le : c ≤ g.count := Nat.le_of_lt_succ (mem_descending.mp listed)
    have source_marked : st.visited source = true := known.elim (fun same => same ▸ h.marked) id
    have source_le := h.inside source source_marked
    rw [synthesis_isSome]
    refine and_congr_right fun fresh => ?_
    rw [Related, Related, strength_congr (h.fresh source_le c_le source_marked fresh)]

/-- A traversal marks the nodes that are connected to its root. -/
lemma searchFrom_drain {state : Synthesis} (shaped : state.graph.Shaped)
    (root_lt : root < state.graph.count) (clean : state.nullRelation = false) :
    Closing state.graph root (state.searchFrom root) ∧
      ∀ v, (state.searchFrom root).visited v = true ↔ state.graph.Connected root v := by
  set g := state.graph with start
  set fresh : Synthesis := { state with visited := (· == root) } with begun
  have marks := synthesis_marks root
  have nodup := nodup_descending (g.count + 1)
  have unmarked : ∀ v, fresh.visited v = true → v = root := fun v => beq_iff_eq.mp
  have scanning : RootScan g root fresh :=
    ⟨rfl, clean, beq_self_eq_true root, fun c marked => .inl (unmarked c marked)⟩
  obtain ⟨⟨frontier, scanned⟩, neighbours⟩ := pop_frontier marks synthesis_explores_root
    (Frontier.root unmarked) scanning
  have balance := pop_balance marks nodup fresh root []
  have few : unseen Synthesis.visited (descending (g.count + 1)) fresh = g.count := by
    have all := @countP_mark _ nodup _ (mem_descending.mpr (by omega : root < g.count + 1))
      (fun _ => false) fresh.visited rfl (fun _ => rfl)
    simp only [Bool.not_false, List.countP_true] at all
    rw [descending, List.length_reverse, List.length_range] at all
    exact Nat.succ_injective all
  rw [few] at balance
  obtain ⟨reached, closing⟩ := drain_frontier marks nodup (synthesis_explores shaped root_lt)
    balance.le frontier
    (scanned.closing root_lt.le fun c c_le => neighbours c (mem_descending.mpr (by omega)))
  refine ⟨closing, fun v => ?_⟩
  rw [← connected_iff, ← reached.reached]
  constructor
  · exact .inr
  · rintro (rfl | marked)
    · exact closing.marked
    · exact marked

/-- What the traversals of some roots make of the graph. -/
structure Closes (before after : Synthesis) (roots : List Nat) : Prop where
  clean : after.nullRelation = false
  grows : Extends before.graph after.graph
  closed : ∀ r ∈ roots, after.graph.ClosedAt r
  still : (∀ r ∈ roots, before.graph.ClosedAt r) → after.graph = before.graph

lemma searchFrom_closes {state : Synthesis} (shaped : state.graph.Shaped)
    (root_lt : root < state.graph.count) (clean : state.nullRelation = false) :
    Closes state (state.searchFrom root) [root] := by
  obtain ⟨closing, reached⟩ := searchFrom_drain shaped root_lt clean
  have grows : Extends state.graph (state.searchFrom root).graph := by
    refine ⟨closing.slots, closing.besides, closing.probe, ?_, ?_⟩
    · intro a a_le b b_le apart which
      refine closing.frame a a_le b b_le apart fun c pair => ?_
      by_contra written
      rw [not_or, Bool.not_eq_false, reached] at written
      obtain ⟨path, unrelated⟩ := written
      rcases which with related | apart
      · rcases pair with ⟨rfl, rfl⟩ | ⟨rfl, rfl⟩
        · exact unrelated related
        · exact unrelated (related_comm.mp related)
      · rcases pair with ⟨rfl, rfl⟩ | ⟨rfl, rfl⟩
        · exact apart path
        · exact apart (path.symm root_lt.le)
    · intro a a_le b b_le apart differ
      by_contra other
      refine differ (closing.frame a a_le b b_le apart fun c pair => ?_)
      by_contra written
      rw [not_or, Bool.not_eq_false] at written
      have away : c ≠ root := by
        rintro rfl
        rcases pair with ⟨rfl, rfl⟩ | ⟨rfl, rfl⟩ <;> exact apart rfl
      obtain ⟨relation, found, two⟩ := closing.given c away written.1 written.2
      have strong : (state.searchFrom root).graph.strength root c = 2 := by
        rw [strength_eq away.symm, found]
        exact two
      rcases pair with ⟨rfl, rfl⟩ | ⟨rfl, rfl⟩
      · exact other strong
      · exact other ((strength_comm _ _).trans strong)
  refine ⟨closing.clean, grows, ?_, ?_⟩
  · intro r listed c c_le away path
    obtain rfl := List.mem_singleton.mp listed
    have counted := grows.count
    have path := (grows.connected_iff root_lt.le).mp path
    by_cases related : state.graph.Related r c
    · exact grows.related root_lt.le (by omega) related
    · obtain ⟨relation, found, two⟩ := closing.given c away ((reached c).mpr path) related
      rw [Related, strength_eq away.symm, found]
      show 1 ≤ relation.inlierCount
      rw [two]
      decide
  · intro closed
    refine closing.still fun c marked => ?_
    by_cases same : c = root
    · exact .inl same
    · exact .inr (closed root (List.mem_singleton_self root) c (closing.inside c marked) same
        ((reached c).mp marked))

/-- The roots one after the other. -/
lemma foldl_searchFrom_closes (roots : List Nat) (state : Synthesis) (shaped : state.graph.Shaped)
    (inside : ∀ r ∈ roots, r < state.graph.count) (clean : state.nullRelation = false) :
    Closes state (roots.foldl Synthesis.searchFrom state) roots := by
  induction roots generalizing state with
  | nil =>
    exact ⟨clean, .refl _, fun r listed => absurd listed List.not_mem_nil, fun _ => rfl⟩
  | cons root rest ih =>
    have here := searchFrom_closes shaped (inside root List.mem_cons_self) clean
    have counted := here.grows.count
    have later := ih (state.searchFrom root) (here.grows.shaped shaped)
      (fun r listed => counted ▸ inside r (List.mem_cons_of_mem root listed)) here.clean
    refine ⟨later.clean, here.grows.trans later.grows, ?_, ?_⟩
    · intro r listed
      rcases List.mem_cons.mp listed with rfl | listed
      · refine later.grows.closedAt ?_ (here.closed r (List.mem_singleton_self r))
        exact counted.symm ▸ (inside r List.mem_cons_self).le
      · exact later.closed r listed
    · intro closed
      have same : (state.searchFrom root).graph = state.graph := by
        apply here.still
        intro r listed
        obtain rfl := List.mem_singleton.mp listed
        exact closed r List.mem_cons_self
      have rest : ∀ r ∈ rest, (state.searchFrom root).graph.ClosedAt r := by
        rw [same]
        exact fun r listed => closed r (List.mem_cons_of_mem root listed)
      exact (later.still rest).trans same

end Search

section

variable {g : CapacityGraph}

lemma synthesize_ok (full : g.count = g.enrollment.capacity) (shaped : g.Shaped) :
    ∃ after, g.synthesize g.count = .ok after ∧ Extends g after ∧
      (∀ root < g.count, after.ClosedAt root) ∧
      ((∀ root < g.count, g.ClosedAt root) → after = g) := by
  set start : Synthesis := ⟨g, false, fun _ => false, fun _ _ => 0, identityGroupTransform, 0⟩
    with begun
  have closes := foldl_searchFrom_closes (List.range g.count) start shaped
    (fun r listed => List.mem_range.mp listed) rfl
  have admitted : g.admits g.count = true := by
    simp only [admits, Bool.and_eq_true, beq_iff_eq, decide_eq_true_eq]
    exact ⟨⟨full, shaped.triangular.small⟩, trivial⟩
  refine ⟨_, ?_, closes.grows, fun r inside => closes.closed r (List.mem_range.mpr inside),
    fun closed => closes.still fun r listed => closed r (List.mem_range.mp listed)⟩
  unfold synthesize
  rw [if_neg (by rw [admitted]; decide)]
  show (if (List.foldl _ start _).nullRelation = true then _ else _) = _
  rw [closes.clean, if_neg Bool.false_ne_true]

/-- The closure of a full gallery relates what was connected, adds only relations of strength 2
between connected nodes, and leaves a closed graph alone. -/
theorem synthesize_closes (full : g.count = g.enrollment.capacity) (shaped : g.Shaped) :
    ∃ after, g.synthesize g.count = .ok after ∧
      (∀ root < g.count, ∀ c ≤ g.count, c ≠ root → g.Connected root c →
        1 ≤ after.strength root c) ∧
      (∀ a ≤ g.count, ∀ b ≤ g.count, a ≠ b → 1 ≤ g.strength a b →
        after.stored a b = g.stored a b) ∧
      (∀ a ≤ g.count, ∀ b ≤ g.count, a ≠ b → ¬g.Connected a b →
        after.stored a b = g.stored a b) ∧
      (∀ a ≤ g.count, ∀ b ≤ g.count, a ≠ b → after.stored a b ≠ g.stored a b →
        after.strength a b = 2) ∧
      after.enrollment.besidesRelations = g.enrollment.besidesRelations ∧
      after.synthesize g.count = .ok after := by
  obtain ⟨after, done, grows, closed, -⟩ := synthesize_ok full shaped
  have counted := grows.count
  obtain ⟨again, redone, -, -, still⟩ := synthesize_ok (g := after)
    (counted.trans (full.trans grows.slots.capacity.symm)) (grows.shaped shaped)
  refine ⟨after, done, ?_, ?_, ?_, grows.changed, grows.besides, ?_⟩
  · intro root inside c c_le other path
    exact closed root inside c (counted.symm ▸ c_le) other ((grows.connected_iff inside.le).mpr path)
  · exact fun a a_le b b_le apart related => grows.kept a a_le b b_le apart (.inl related)
  · exact fun a a_le b b_le apart far => grows.kept a a_le b b_le apart (.inr far)
  · have same : again = after := still fun root inside => closed root (counted ▸ inside)
    rw [same, counted] at redone
    exact redone

/-- Three sub-templates in a chain, and a probe that is joined to the last. -/
def chainGraph : CapacityGraph where
  enrollment := { threeStrong with
    capacity := 3
    relations := [sentinelRelation, ⟨6, identityGroupTransform⟩, sentinelRelation,
      ⟨6, identityGroupTransform⟩] }
  probeRelations := some [sentinelRelation, sentinelRelation, ⟨4, identityGroupTransform⟩]

lemma chainGraph_shaped : chainGraph.Shaped where
  triangular := {
    pairs := by
      have slots : ∀ newer < 3, ∀ older < newer,
          chainGraph.enrollment.relationIndex newer older = triangleBase newer + older := by decide
      exact fun newer older below inside => slots newer inside older below
    relations := by decide
    small := by decide }
  probe relations given := by
    cases given
    rfl

theorem synthesize_closes_chain :
    ∃ after, chainGraph.synthesize 3 = .ok after ∧ 1 ≤ after.strength 0 3 ∧
      after.strength 0 1 = 6 ∧ after.synthesize 3 = .ok after := by
  obtain ⟨after, done, closed, kept, -, -, -, again⟩ := synthesize_closes rfl chainGraph_shaped
  have path : chainGraph.Connected 0 3 := by
    have first : chainGraph.Related 0 1 := by decide
    have second : chainGraph.Related 1 2 := by decide
    have third : chainGraph.Related 2 3 := by decide
    exact .tail (.tail (.single ⟨by decide, first⟩) ⟨by decide, second⟩) ⟨by decide, third⟩
  have direct := strength_congr (kept 0 (by decide) 1 (by decide) (by decide) (by decide))
  exact ⟨after, done, closed 0 (by decide) 3 (by decide) (by decide) path,
    direct.trans (by decide), again⟩

end

end GoodixSpi.Chicago
