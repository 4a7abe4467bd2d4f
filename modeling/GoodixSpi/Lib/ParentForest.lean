import Mathlib.Combinatorics.SimpleGraph.Acyclic
import Mathlib.SetTheory.Cardinal.Finite

/-! Forests given by the parent of each node. A rank that falls from a node to its parent
makes the graph of parents acyclic; a root name that a node shares with its parent tells its
components apart and counts its edges. -/

namespace ParentForest

open SimpleGraph

universe u

variable {V : Type u} {parent : V → Option V} {rank : V → Nat} {root : V → V}

/-- The graph that joins every node to its parent. -/
def graph (parent : V → Option V) : SimpleGraph V :=
  SimpleGraph.fromRel fun child up => parent child = some up

/-- A rank that falls along every edge, and the name of the root above each node. -/
structure Rooted (parent : V → Option V) (rank : V → Nat) (root : V → V) : Prop where
  falls : ∀ child up, parent child = some up → rank up < rank child
  shares : ∀ child up, parent child = some up → root child = root up
  own : ∀ top, parent top = none → root top = top

namespace Rooted

variable (h : Rooted parent rank root)
include h

lemma adj_iff {a b : V} : (graph parent).Adj a b ↔ parent a = some b ∨ parent b = some a := by
  rw [graph, SimpleGraph.fromRel_adj]
  constructor
  · exact fun joined => joined.2
  · intro joined
    refine ⟨?_, joined⟩
    rintro rfl
    rcases joined with up | up
    · exact Nat.lt_irrefl _ (h.falls a a up)
    · exact Nat.lt_irrefl _ (h.falls a a up)

/-- The highest node of a cycle would have two parents. -/
theorem isAcyclic : (graph parent).IsAcyclic := by
  classical
  intro v cycle closed
  obtain ⟨top, on, highest⟩ := Finset.exists_max_image cycle.support.toFinset rank
    ⟨v, List.mem_toFinset.mpr cycle.start_mem_support⟩
  have listed := List.mem_toFinset.mp on
  have turned := closed.rotate listed
  have up : ∀ w, (graph parent).Adj top w → w ∈ cycle.support → parent top = some w := by
    intro w joined inside
    rcases h.adj_iff.mp joined with above | below
    · exact above
    · have falls := h.falls w top below
      have most := highest w (List.mem_toFinset.mpr inside)
      omega
  have inside : ∀ w, w ∈ (cycle.rotate top listed).support → w ∈ cycle.support :=
    fun w => (Walk.mem_support_rotate_iff cycle top listed).mp
  have first := up _ ((cycle.rotate top listed).adj_snd turned.not_nil)
    (inside _ (Walk.getVert_mem_support _ _))
  have last := up _ ((cycle.rotate top listed).adj_penultimate turned.not_nil).symm
    (inside _ (Walk.getVert_mem_support _ _))
  rw [first, Option.some.injEq] at last
  exact turned.snd_ne_penultimate last

/-- Climbing from a node ends at its root. -/
lemma climb (v : V) : parent (root v) = none ∧ (graph parent).Reachable v (root v) := by
  induction hr : rank v using Nat.strong_induction_on generalizing v with
  | _ n ih =>
    cases up : parent v with
    | none =>
      rw [h.own v up]
      exact ⟨up, Reachable.refl v⟩
    | some above =>
      obtain ⟨top, reaches⟩ := ih (rank above) (hr ▸ h.falls v above up) above rfl
      rw [h.shares v above up]
      exact ⟨top, (h.adj_iff.mpr (.inl up)).reachable.trans reaches⟩

/-- Two nodes are connected exactly if they have the same root. -/
theorem reachable_iff {a b : V} : (graph parent).Reachable a b ↔ root a = root b := by
  constructor
  · rintro ⟨walk⟩
    induction walk with
    | nil => rfl
    | cons joined _ ih =>
      rcases h.adj_iff.mp joined with up | up
      · exact (h.shares _ _ up).trans ih
      · exact (h.shares _ _ up).symm.trans ih
  · intro same
    have left := (h.climb a).2
    rw [same] at left
    exact left.trans (h.climb b).2.symm

/-- Each node with a parent has one edge upwards. -/
lemma card_edges :
    Nat.card (graph parent).edgeSet = Nat.card {v // ¬ parent v = none} := by
  symm
  refine Nat.card_eq_of_bijective
    (fun v => ⟨s(v.1, (parent v.1).get (Option.isSome_iff_ne_none.mpr v.2)),
      h.adj_iff.mpr (.inl (Option.some_get _).symm)⟩) ⟨?_, ?_⟩
  · rintro ⟨a, ha⟩ ⟨b, hb⟩ same
    obtain ⟨up, above⟩ := Option.ne_none_iff_exists'.mp ha
    obtain ⟨up', above'⟩ := Option.ne_none_iff_exists'.mp hb
    simp only [above, above', Option.get_some, Subtype.mk.injEq, Sym2.eq_iff] at same
    apply Subtype.ext
    rcases same with ⟨same, -⟩ | ⟨rfl, rfl⟩
    · exact same
    · have falls := h.falls _ _ above
      have falls' := h.falls _ _ above'
      omega
  · rintro ⟨edge, listed⟩
    induction edge with
    | _ a b =>
      rcases h.adj_iff.mp listed with up | up
      · exact ⟨⟨a, by simp [up]⟩, by simp [up]⟩
      · exact ⟨⟨b, by simp [up]⟩, by simp [up, Sym2.eq_swap]⟩

/-- Each component has one node without a parent. -/
lemma card_components :
    Nat.card (graph parent).ConnectedComponent = Nat.card {v // parent v = none} := by
  symm
  refine Nat.card_eq_of_bijective (fun v => (graph parent).connectedComponentMk v.1) ⟨?_, ?_⟩
  · rintro ⟨a, ha⟩ ⟨b, hb⟩ same
    have roots := h.reachable_iff.mp (ConnectedComponent.eq.mp same)
    rw [h.own a ha, h.own b hb] at roots
    exact Subtype.ext roots
  · intro component
    induction component using ConnectedComponent.ind with
    | _ v =>
      obtain ⟨top, reaches⟩ := h.climb v
      exact ⟨⟨root v, top⟩, ConnectedComponent.eq.mpr reaches.symm⟩

/-- A forest has as many edges as nodes, less one for each component. -/
theorem card_edges_add_components [Finite V] :
    Nat.card (graph parent).edgeSet + Nat.card (graph parent).ConnectedComponent =
      Nat.card V := by
  rw [h.card_edges, h.card_components, Nat.add_comm, ← Nat.card_sum]
  exact Nat.card_congr (Equiv.sumCompl fun v => parent v = none)

end Rooted

/-- Graphs with the same connections have the same number of components. -/
lemma card_components_congr {G H : SimpleGraph V}
    (same : ∀ a b, G.Reachable a b ↔ H.Reachable a b) :
    Nat.card G.ConnectedComponent = Nat.card H.ConnectedComponent := by
  have equal : G.Reachable = H.Reachable := by
    funext a b
    exact propext (same a b)
  unfold ConnectedComponent
  rw [equal]

end ParentForest
