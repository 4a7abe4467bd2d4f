import GoodixSpi.Chicago.Enrollment.CapacitySafety
import GoodixSpi.Chicago.Enrollment.Connectivity
import GoodixSpi.Lib.Frontier

/-! The stored relations of the capacity graph. Two nodes have one slot, which both orders read
and write; in the triangular layout no two pairs share theirs. -/

namespace GoodixSpi.Chicago

namespace Enrollment

/-- The triangular layout, with a table that holds it. -/
structure TriangularTable (e : Enrollment) : Prop where
  pairs : e.Triangular
  relations : triangleBase e.count ≤ e.relations.length
  small : e.count ≤ enrollmentCapacity

lemma TriangularTable.of_layout {e : Enrollment} (layout : Layout e) : e.TriangularTable where
  pairs := triangular_of_layout layout
  relations := layout.relations.ge
  small := layout.count

variable {e e' : Enrollment}

namespace TriangularTable

lemma slot (triangular : e.TriangularTable) {newer older : Nat} (inside : newer < e.count)
    (below : older < newer) :
    e.relationBetweenSubtemplates newer older = some (triangleBase newer + older) := by
  have index := triangular.pairs newer older below inside
  have next : triangleBase (newer + 1) ≤ triangleBase e.count := triangleBase_mono inside
  rw [triangleBase_succ (by omega)] at next
  have length := triangular.relations
  rw [relationBetweenSubtemplates, index, if_pos ⟨below, by omega⟩]

lemma relationOf (triangular : e.TriangularTable) {a b : Nat} (a_lt : a < e.count) (b_lt : b < e.count)
    (apart : a ≠ b) :
    e.relationOf a b = e.relations[triangleBase (max a b) + min a b]? := by
  rw [Enrollment.relationOf, triangular.slot (by omega) (by omega), Option.bind_some]

lemma slotsExist (triangular : e.TriangularTable) : e.SlotsExist := by
  intro newer inside older below
  rw [triangular.slot inside below]
  rfl

lemma of_sameSlots (same : SameSlots e e') (triangular : e.TriangularTable) : e'.TriangularTable where
  pairs newer older below inside := by
    rw [relationIndex, same.base]
    exact triangular.pairs newer older below (same.count ▸ inside)
  relations := by
    rw [same.count, same.length]
    exact triangular.relations
  small := same.count ▸ triangular.small

end TriangularTable

end Enrollment

open Enrollment

namespace CapacityGraph

variable (self : CapacityGraph)

/-- The stored relation of two nodes, in either order. -/
def stored (a b : Nat) : Option Relation :=
  if a = self.count then self.probeRelations.bind (·[b]?)
  else if b = self.count then self.probeRelations.bind (·[a]?)
  else self.enrollment.relationOf a b

/-- The strength that `capacity_relation_load` returns. -/
def strength (a b : Nat) : Int32 := (self.load a b).2

/-- A full gallery in the triangular layout, with the relations of the probe or without. -/
structure Shaped (graph : CapacityGraph) : Prop where
  triangular : graph.enrollment.TriangularTable
  probe : ∀ relations, graph.probeRelations = some relations → relations.length = graph.count

variable {g g' : CapacityGraph}

lemma stored_comm (a b : Nat) (apart : a ≠ b) : g.stored a b = g.stored b a := by
  unfold stored
  by_cases first : a = g.count
  · rw [if_pos first, if_neg (by omega : b ≠ g.count), if_pos first]
  · by_cases second : b = g.count
    · rw [if_neg first, if_pos second, if_pos second]
    · rw [if_neg first, if_neg second, if_neg second, if_neg first, relationOf_comm]

/-- Absent relations have the strength -1. -/
lemma strength_eq {a b : Nat} (apart : a ≠ b) :
    g.strength a b = (g.stored a b).elim (-1) Relation.inlierCount := by
  unfold strength load stored
  simp only [if_neg apart]
  by_cases first : a = g.count
  · simp only [if_pos first]
    cases g.probeRelations.bind (·[b]?) <;> rfl
  · by_cases second : b = g.count
    · simp only [if_neg first, if_pos second]
      cases g.probeRelations.bind (·[a]?) <;> rfl
    · simp only [if_neg first, if_neg second]
      split <;> cases g.enrollment.relationOf a b <;> rfl

lemma strength_comm (a b : Nat) : g.strength a b = g.strength b a := by
  by_cases same : a = b
  · rw [same]
  · rw [strength_eq same, strength_eq (Ne.symm same), stored_comm a b same]

lemma strength_self (a : Nat) : g.strength a a = 0 := by
  rw [strength, load, if_pos rfl]

lemma strength_congr {a b : Nat} (same : g'.stored a b = g.stored a b) :
    g'.strength a b = g.strength a b := by
  by_cases equal : a = b
  · rw [equal, strength_self, strength_self]
  · rw [strength_eq equal, strength_eq equal, same]

/-- The pair of a store, in either order. -/
def IsPair (a b x y : Nat) : Prop := x = a ∧ y = b ∨ x = b ∧ y = a

instance (a b x y : Nat) : Decidable (IsPair a b x y) := inferInstanceAs (Decidable (_ ∨ _))

/-- A store writes the relation of its pair, if that has one, and nothing else. -/
structure Stores (before after : CapacityGraph) (a b : Nat) (strength : Int32) : Prop where
  slots : SameSlots before.enrollment after.enrollment
  probe : after.probeRelations.map List.length = before.probeRelations.map List.length
  pair : (before.stored a b).isSome = true →
    ∃ relation, after.stored a b = some relation ∧ relation.inlierCount = strength
  absent : before.stored a b = none → after.stored a b = none
  frame : ∀ x y, x ≤ before.count → y ≤ before.count → x ≠ y → ¬IsPair a b x y →
    after.stored x y = before.stored x y

lemma Stores.shaped {a b : Nat} {strength : Int32} (stores : Stores g g' a b strength)
    (shaped : g.Shaped) : g'.Shaped where
  triangular := shaped.triangular.of_sameSlots stores.slots
  probe relations given := by
    have lengths := stores.probe
    rw [given] at lengths
    cases earlier : g.probeRelations with
    | none => simp [earlier] at lengths
    | some relations' =>
      have same : relations.length = relations'.length := by simpa [earlier] using lengths
      rw [same, shaped.probe relations' earlier]
      exact stores.slots.count.symm

lemma Stores.symm {a b : Nat} {strength : Int32} (apart : a ≠ b)
    (stores : Stores g g' a b strength) : Stores g g' b a strength where
  slots := stores.slots
  probe := stores.probe
  pair given := by
    rw [stored_comm b a apart.symm] at given
    rw [stored_comm b a apart.symm]
    exact stores.pair given
  absent missing := by
    rw [stored_comm b a apart.symm] at missing
    rw [stored_comm b a apart.symm]
    exact stores.absent missing
  frame x y x_le y_le differ other :=
    stores.frame x y x_le y_le differ fun pair => other (Or.symm pair)

/-- A write to the array of the probe. -/
lemma setProbeRelation_stores (index : Nat) (relation : Relation) :
    Stores g (g.setProbeRelation index relation) g.count index relation.inlierCount where
  slots := SameSlots.refl _
  probe := by simp [setProbeRelation, Function.comp_def]
  pair given := by
    have same : (g.setProbeRelation index relation).count = g.count := rfl
    rw [stored, if_pos rfl] at given
    obtain ⟨old, found⟩ := Option.isSome_iff_exists.mp given
    obtain ⟨relations, array, found⟩ := Option.bind_eq_some_iff.mp found
    obtain ⟨bound, -⟩ := List.getElem?_eq_some_iff.mp found
    refine ⟨relation, ?_, rfl⟩
    rw [stored, same, if_pos rfl]
    simp [setProbeRelation, array, bound]
  absent missing := by
    have same : (g.setProbeRelation index relation).count = g.count := rfl
    rw [stored, if_pos rfl] at missing
    rw [stored, same, if_pos rfl]
    cases array : g.probeRelations with
    | none => simp [setProbeRelation, array]
    | some relations => simpa [setProbeRelation, array] using missing
  frame x y x_le y_le apart other := by
    have same : (g.setProbeRelation index relation).count = g.count := rfl
    have elsewhere : ∀ slot, slot ≠ index →
        (g.setProbeRelation index relation).probeRelations.bind (·[slot]?) =
          g.probeRelations.bind (·[slot]?) := by
      intro slot apart
      cases array : g.probeRelations with
      | none => simp [setProbeRelation, array]
      | some relations => simp [setProbeRelation, array, List.getElem?_set_ne (Ne.symm apart)]
    unfold stored
    rw [same]
    by_cases first : x = g.count
    · rw [if_pos first, if_pos first]
      exact elsewhere y fun here => other (.inl ⟨first, here⟩)
    · by_cases second : y = g.count
      · rw [if_neg first, if_pos second, if_neg first, if_pos second]
        exact elsewhere x fun here => other (.inr ⟨here, second⟩)
      · rw [if_neg first, if_neg second, if_neg first, if_neg second]
        rfl

/-- A write to the table of the gallery. -/
lemma setRelation_stores (shaped : g.Shaped) {newer older : Nat} (inside : newer < g.count)
    (below : older < newer) (relation : Relation) :
    Stores g (g.setRelation (triangleBase newer + older) relation) newer older
      relation.inlierCount := by
  have same : (g.setRelation (triangleBase newer + older) relation).count = g.count := rfl
  have slots := sameSlots_setRelation (g := g) (triangleBase newer + older) relation
  have inTable : ∀ {a b : Nat}, a < g.count → b < g.count → a ≠ b →
      g.stored a b = g.enrollment.relations[triangleBase (max a b) + min a b]? ∧
        (g.setRelation (triangleBase newer + older) relation).stored a b =
          (g.enrollment.relations.set (triangleBase newer + older) relation)[
            triangleBase (max a b) + min a b]? := by
    intro a b a_lt b_lt apart
    constructor
    · rw [stored, if_neg (by omega), if_neg (by omega)]
      exact shaped.triangular.relationOf a_lt b_lt apart
    · rw [stored, same, if_neg (by omega), if_neg (by omega)]
      exact (shaped.triangular.of_sameSlots slots).relationOf a_lt b_lt apart
  have pair : max newer older = newer ∧ min newer older = older := by omega
  have here := inTable inside (by omega : older < g.count) (by omega : newer ≠ older)
  rw [pair.1, pair.2] at here
  refine ⟨slots, rfl, ?_, ?_, ?_⟩
  · intro given
    rw [here.1] at given
    obtain ⟨old, found⟩ := Option.isSome_iff_exists.mp given
    obtain ⟨bound, -⟩ := List.getElem?_eq_some_iff.mp found
    exact ⟨relation, by rw [here.2, List.getElem?_set_self bound], rfl⟩
  · intro missing
    rw [here.1] at missing
    rw [here.2, List.getElem?_eq_none_iff, List.length_set]
    exact List.getElem?_eq_none_iff.mp missing
  · intro x y x_le y_le apart other
    by_cases gallery : x < g.count ∧ y < g.count
    · have there := inTable gallery.1 gallery.2 apart
      rw [there.1, there.2, List.getElem?_set_ne]
      intro shared
      have ends := triangleBase_pair_injective below (by omega : min x y < max x y) shared
      apply other
      unfold IsPair
      omega
    · unfold stored
      rw [same]
      by_cases first : x = g.count
      · rw [if_pos first, if_pos first]
        rfl
      · rw [if_neg first, if_neg first, if_pos (by omega), if_pos (by omega)]
        rfl

/-- A store of two different nodes, in the order in which it is called. -/
lemma store_stores (shaped : g.Shaped) {first second : Nat} (first_le : first ≤ g.count)
    (second_le : second ≤ g.count) (apart : first ≠ second) (transform : Transform)
    (strength : Int32) :
    ∃ g', g.store first second transform strength = some g' ∧
      Stores g g' first second strength := by
  unfold store
  simp only [if_neg apart]
  by_cases probeFirst : first = g.count
  · rw [if_pos probeFirst]
    exact ⟨_, rfl, probeFirst ▸ setProbeRelation_stores _ _⟩
  · rw [if_neg probeFirst]
    by_cases probeSecond : second = g.count
    · rw [if_pos probeSecond]
      exact ⟨_, rfl, probeSecond ▸ (setProbeRelation_stores _ _).symm (by omega)⟩
    · rw [if_neg probeSecond]
      by_cases order : first < second
      · have second_lt : second < g.count := by omega
        rw [if_pos order, shaped.triangular.slot second_lt order, Option.map_some]
        exact ⟨_, rfl, (setRelation_stores shaped second_lt order _).symm (by omega)⟩
      · have first_lt : first < g.count := by omega
        have below : second < first := by omega
        rw [if_neg order, shaped.triangular.slot first_lt below, Option.map_some]
        exact ⟨_, rfl, setRelation_stores shaped first_lt below _⟩

end CapacityGraph

end GoodixSpi.Chicago
