import GoodixSpi.Lib.SearchForest
import GoodixSpi.Lib.Bridges
import GoodixSpi.Chicago.Enrollment.State

/-! Which relations the packed template keeps: the edges of the depth-first forest of
strong relations, and one bridge from each grouped component to the group's first
sub-template. -/

namespace GoodixSpi.Chicago

structure RelationMask where
  mask : List Bool
  selected : Nat
deriving DecidableEq

namespace RelationMask

/-- `g_new0 (guint8, length)`. -/
def empty (length : Nat) : RelationMask := ⟨List.replicate length false, 0⟩

/-- A slot past the end of the table is skipped. -/
def mark (m : RelationMask) (slot : Nat) : RelationMask :=
  if m.mask[slot]? = some false then ⟨m.mask.set slot true, m.selected + 1⟩ else m

def has (m : RelationMask) (slot : Nat) : Bool := m.mask.getD slot false

lemma mark_length (m : RelationMask) (slot : Nat) : (m.mark slot).mask.length = m.mask.length := by
  unfold mark
  split
  · simp
  · rfl

lemma has_mark (m : RelationMask) (slot s : Nat) :
    (m.mark slot).has s = true ↔ m.has s = true ∨ s = slot ∧ s < m.mask.length := by
  unfold mark has
  split
  · next h =>
    obtain ⟨inside, -⟩ := List.getElem?_eq_some_iff.mp h
    by_cases hs : s = slot
    · subst hs
      simp [inside]
    · have : slot ≠ s := fun e => hs e.symm
      simp [hs, List.getElem?_set_ne this]
  · next h =>
    constructor
    · exact Or.inl
    · rintro (hs | ⟨rfl, inside⟩)
      · exact hs
      · rw [List.getElem?_eq_getElem inside] at h
        have set : m.mask[s] = true := by
          cases hm : m.mask[s] with
          | true => rfl
          | false => rw [hm] at h; exact absurd rfl h
        simp [inside, set]

lemma foldl_mark_length (slots : List Nat) (m : RelationMask) :
    (slots.foldl mark m).mask.length = m.mask.length := by
  induction slots generalizing m with
  | nil => rfl
  | cons slot rest ih => rw [List.foldl_cons, ih, mark_length]

lemma has_foldl_mark (slots : List Nat) (m : RelationMask) (s : Nat) :
    (slots.foldl mark m).has s = true ↔ m.has s = true ∨ s ∈ slots ∧ s < m.mask.length := by
  induction slots generalizing m with
  | nil => simp
  | cons slot rest ih =>
    rw [List.foldl_cons, ih, has_mark, mark_length, List.mem_cons]
    constructor
    · rintro ((h | ⟨rfl, h⟩) | ⟨h₁, h₂⟩)
      · exact .inl h
      · exact .inr ⟨.inl rfl, h⟩
      · exact .inr ⟨.inr h₁, h₂⟩
    · rintro (h | ⟨rfl | h₁, h₂⟩)
      · exact .inl (.inl h)
      · exact .inl (.inr ⟨rfl, h₂⟩)
      · exact .inr ⟨h₁, h₂⟩

/-- The counter agrees with the mask. -/
def Counted (m : RelationMask) : Prop := m.selected = m.mask.count true

lemma counted_mark {m : RelationMask} (h : m.Counted) (slot : Nat) : (m.mark slot).Counted := by
  unfold mark
  split
  · next hf =>
    obtain ⟨inside, clear⟩ := List.getElem?_eq_some_iff.mp hf
    have grown := List.count_set (a := true) (b := true) (l := m.mask) (i := slot) inside
    simp only [Counted, clear] at h grown ⊢
    simp only [grown, h, beq_self_eq_true, if_true]
    simp
  · exact h

lemma counted_foldl_mark (slots : List Nat) {m : RelationMask} (h : m.Counted) :
    (slots.foldl mark m).Counted := by
  induction slots generalizing m with
  | nil => exact h
  | cons slot rest ih => exact ih (counted_mark h slot)

lemma counted_empty (length : Nat) : (empty length).Counted := by
  simp [Counted, empty, List.count_replicate]

/-- The selected slots in ascending order. -/
def slots (m : RelationMask) : List Nat := (List.range m.mask.length).filter m.has

lemma Counted.length_slots {m : RelationMask} (h : m.Counted) : m.slots.length = m.selected := by
  have count : ∀ l : List Bool,
      ((List.range l.length).filter fun s => l.getD s false).length = l.count true := by
    intro l
    induction l with
    | nil => rfl
    | cons b rest ih =>
      rw [List.length_cons, List.range_succ_eq_map, List.filter_cons, List.count_cons,
        List.filter_map, ← ih]
      cases b
      · simp [Function.comp_def]
      · simp [Function.comp_def]
  rw [h]
  exact count m.mask

lemma mem_slots {m : RelationMask} {s : Nat} :
    s ∈ m.slots ↔ s < m.mask.length ∧ m.has s = true := by
  simp [slots]

end RelationMask

namespace Enrollment

variable (self : Enrollment)

/-- `relation != NULL && relation->inlier_count > 2`. -/
def strongRelation (a b : Nat) : Bool :=
  (self.relationOf a b).any fun relation => decide (2 < relation.inlierCount.toInt)

/-- `relation != NULL && relation->inlier_count >= 0`. -/
def usableRelation (a b : Nat) : Bool :=
  (self.relationOf a b).any fun relation => decide (0 ≤ relation.inlierCount.toInt)

def grouped (index : Nat) : Bool := self.groupState index == 1

def forest : SearchForest.State := SearchForest.build self.strongRelation self.count

def firstGrouped : Option Nat := (List.range self.count).find? self.grouped

/-- The pairs that reconnect grouped components. -/
def reconnected : List (Nat × Nat) :=
  match self.firstGrouped with
  | none => []
  | some anchor =>
    (Bridges.run self.usableRelation self.grouped self.count anchor self.forest.component).picks

def pairSlot (pair : Nat × Nat) : Nat :=
  self.relationIndex (max pair.1 pair.2) (min pair.1 pair.2)

def forestPairs : List (Nat × Nat) :=
  (List.range self.count).filterMap fun index =>
    (self.forest.parent index).map fun other => (index, other)

def buildSerializedRelationMask : RelationMask :=
  ((self.forestPairs ++ self.reconnected).map self.pairSlot).foldl RelationMask.mark
    (.empty self.relations.length)

lemma mask_length : self.buildSerializedRelationMask.mask.length = self.relations.length := by
  rw [buildSerializedRelationMask, RelationMask.foldl_mark_length]
  simp [RelationMask.empty]

lemma mask_counted : self.buildSerializedRelationMask.Counted :=
  RelationMask.counted_foldl_mark _ (RelationMask.counted_empty _)

lemma mem_mask_slots {slot : Nat} :
    slot ∈ self.buildSerializedRelationMask.slots ↔
      slot < self.relations.length ∧
        ∃ pair ∈ self.forestPairs ++ self.reconnected, self.pairSlot pair = slot := by
  rw [RelationMask.mem_slots, mask_length, buildSerializedRelationMask,
    RelationMask.has_foldl_mark]
  simp only [List.mem_map, RelationMask.empty, List.length_replicate]
  constructor
  · rintro ⟨inside, h | ⟨h, -⟩⟩
    · simp [RelationMask.has, inside] at h
    · exact ⟨inside, h⟩
  · rintro ⟨inside, h⟩
    exact ⟨inside, .inr ⟨h, inside⟩⟩

lemma mem_forestPairs {pair : Nat × Nat} :
    pair ∈ self.forestPairs ↔ pair.1 < self.count ∧ self.forest.parent pair.1 = some pair.2 := by
  simp only [forestPairs, List.mem_filterMap, List.mem_range, Option.map_eq_some_iff]
  constructor
  · rintro ⟨index, below, other, h, rfl⟩
    exact ⟨below, h⟩
  · rintro ⟨below, h⟩
    exact ⟨pair.1, below, pair.2, h, rfl⟩

variable {self}

lemma relationOf_comm (a b : Nat) : self.relationOf a b = self.relationOf b a := by
  simp only [relationOf, max_comm a b, min_comm a b]

lemma relationOf_eq (a b : Nat) :
    self.relationOf a b = if a = b then none else self.relations[self.pairSlot (a, b)]? := by
  unfold relationOf relationBetweenSubtemplates
  by_cases same : a = b
  · simp [same]
  · have newer : max a b > min a b := by omega
    simp only [if_neg same, newer, true_and, pairSlot]
    split
    · rfl
    · next outside =>
      rw [List.getElem?_eq_none (by omega)]
      rfl

lemma strongRelation_iff {a b : Nat} : self.strongRelation a b = true ↔
    ∃ relation, self.relationOf a b = some relation ∧ 2 < relation.inlierCount.toInt := by
  unfold strongRelation
  cases self.relationOf a b with
  | none => simp
  | some relation => simp

lemma usableRelation_iff {a b : Nat} : self.usableRelation a b = true ↔
    ∃ relation, self.relationOf a b = some relation ∧ 0 ≤ relation.inlierCount.toInt := by
  unfold usableRelation
  cases self.relationOf a b with
  | none => simp
  | some relation => simp

lemma strongRelation_comm (a b : Nat) : self.strongRelation a b = self.strongRelation b a := by
  simp only [strongRelation, relationOf_comm]

/-- A pair the traversal chose has a relation, and its slot is selected. -/
lemma selected_of_pair {a b : Nat} {relation : Relation}
    (found : self.relationOf a b = some relation)
    (chosen : (a, b) ∈ self.forestPairs ++ self.reconnected) :
    self.pairSlot (a, b) ∈ self.buildSerializedRelationMask.slots := by
  rw [relationOf_eq] at found
  split at found
  · cases found
  · have inside := (List.getElem?_eq_some_iff.mp found).1
    exact self.mem_mask_slots.mpr ⟨inside, (a, b), chosen, rfl⟩

/-! ### The mask of a reloaded table

Packing keeps the selected relations and turns every other one into a negative
sentinel. -/

/-- `loaded` has the sub-template skeleton of `stored` and its selected relations only. -/
structure KeepsSelected (stored loaded : Enrollment) : Prop where
  count : loaded.count = stored.count
  base : ∀ index, loaded.relationBase index = stored.relationBase index
  group : ∀ index, loaded.groupState index = stored.groupState index
  length : loaded.relations.length = stored.relations.length
  kept : ∀ slot ∈ stored.buildSerializedRelationMask.slots,
    loaded.relations[slot]? = stored.relations[slot]?
  dropped : ∀ slot relation, slot ∉ stored.buildSerializedRelationMask.slots →
    loaded.relations[slot]? = some relation → relation.inlierCount.toInt < 0

namespace KeepsSelected

variable {stored loaded : Enrollment} (h : KeepsSelected stored loaded)
include h

lemma pairSlot (pair : Nat × Nat) : loaded.pairSlot pair = stored.pairSlot pair := by
  simp only [Enrollment.pairSlot, relationIndex, h.base]

lemma relationOf_of_nonneg {a b : Nat} {relation : Relation}
    (found : loaded.relationOf a b = some relation) (nonneg : 0 ≤ relation.inlierCount.toInt) :
    stored.relationOf a b = some relation := by
  rw [relationOf_eq, h.pairSlot] at found
  rw [relationOf_eq]
  split at found
  · cases found
  · next differ =>
    rw [if_neg differ, ← found]
    by_cases selected : stored.pairSlot (a, b) ∈ stored.buildSerializedRelationMask.slots
    · exact (h.kept _ selected).symm
    · have := h.dropped _ relation selected found
      omega

lemma relationOf_kept {a b : Nat} {relation : Relation}
    (found : stored.relationOf a b = some relation)
    (selected : stored.pairSlot (a, b) ∈ stored.buildSerializedRelationMask.slots) :
    loaded.relationOf a b = some relation := by
  rw [relationOf_eq] at found
  rw [relationOf_eq, h.pairSlot]
  split at found
  · cases found
  · next differ => rw [if_neg differ, h.kept _ selected, found]

/-- The forest of the reloaded table is the forest of the original. -/
lemma forest : loaded.forest = stored.forest := by
  unfold Enrollment.forest
  rw [h.count]
  refine SearchForest.build_stable ?_ _ ?_
  · intro a b strong
    obtain ⟨relation, found, large⟩ := strongRelation_iff.mp strong
    exact strongRelation_iff.mpr ⟨relation, h.relationOf_of_nonneg found (by omega), large⟩
  · intro c p parent
    obtain ⟨below, -, -, joined, -⟩ := @SearchForest.build_rooted
      stored.strongRelation stored.count c p parent
    rw [strongRelation_comm] at joined ⊢
    obtain ⟨relation, found, large⟩ := strongRelation_iff.mp joined
    have chosen : (c, p) ∈ stored.forestPairs ++ stored.reconnected :=
      List.mem_append_left _ (stored.mem_forestPairs.mpr ⟨below, parent⟩)
    exact strongRelation_iff.mpr
      ⟨relation, h.relationOf_kept found (selected_of_pair found chosen), large⟩

lemma grouped : loaded.grouped = stored.grouped := by
  funext index
  simp only [Enrollment.grouped, h.group]

lemma firstGrouped : loaded.firstGrouped = stored.firstGrouped := by
  simp only [Enrollment.firstGrouped, h.count, h.grouped]

/-- The bridges of the reloaded table are the bridges of the original. -/
lemma reconnected : loaded.reconnected = stored.reconnected := by
  have bridges : stored.reconnected = stored.reconnected := rfl
  unfold Enrollment.reconnected at bridges ⊢
  rw [h.firstGrouped, h.forest, h.count, h.grouped]
  cases anchored : stored.firstGrouped with
  | none => rfl
  | some anchor =>
    simp only
    rw [Bridges.run_stable]
    · intro a b usable
      obtain ⟨relation, found, nonneg⟩ := usableRelation_iff.mp usable
      exact usableRelation_iff.mpr ⟨relation, h.relationOf_of_nonneg found nonneg, nonneg⟩
    · rintro ⟨a, b⟩ picked
      obtain ⟨-, -, usable⟩ := Bridges.run_usable picked
      obtain ⟨relation, found, nonneg⟩ := usableRelation_iff.mp usable
      have chosen : (a, b) ∈ stored.forestPairs ++ stored.reconnected := by
        refine List.mem_append_right _ ?_
        simp only [Enrollment.reconnected, anchored]
        exact picked
      exact usableRelation_iff.mpr
        ⟨relation, h.relationOf_kept found (selected_of_pair found chosen), nonneg⟩

/-- Run on its own output, the traversal selects the same relations. -/
theorem mask : loaded.buildSerializedRelationMask = stored.buildSerializedRelationMask := by
  have slot : loaded.pairSlot = stored.pairSlot := funext h.pairSlot
  have pairs : loaded.forestPairs = stored.forestPairs := by
    simp only [forestPairs, h.count, h.forest]
  simp only [buildSerializedRelationMask, pairs, h.reconnected, slot, h.length]

end KeepsSelected

end Enrollment

end GoodixSpi.Chicago
