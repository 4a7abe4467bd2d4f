import Mathlib.Data.List.Pairwise
import Mathlib.Data.List.Perm.Basic
import Mathlib.Tactic.Lemma

/-! Insertion sort as a loop over an array: each item is carried back past the entries that have to
make room for it. -/

namespace InsertionSort

variable {α : Type} (moves : α → α → Bool)

/-- The inner loop, over the entries before the item, the last one first; `moves entry item` says
that the entry makes room. -/
def insertBack (item : α) : List α → List α
  | [] => [item]
  | last :: before =>
    if moves last item then last :: insertBack item before else item :: last :: before

/-- The outer loop; the entries that are already in place are kept last first. -/
def sortBack : List α → List α → List α
  | [], placed => placed
  | item :: rest, placed => sortBack rest (insertBack moves item placed)

def sort (items : List α) : List α := (sortBack moves items []).reverse

variable {moves}

lemma insertBack_perm (item : α) (placed : List α) :
    (insertBack moves item placed).Perm (item :: placed) := by
  induction placed with
  | nil => exact .refl _
  | cons last before ih =>
    unfold insertBack
    split
    · exact (ih.cons last).trans (.swap item last before)
    · exact .refl _

lemma sortBack_perm (items placed : List α) :
    (sortBack moves items placed).Perm (items ++ placed) := by
  induction items generalizing placed with
  | nil => exact .refl _
  | cons item rest ih =>
    refine (ih _).trans ?_
    refine (List.Perm.append_left rest (insertBack_perm item placed)).trans ?_
    exact List.perm_middle

/-- Nothing is lost or made up. -/
lemma sort_perm (items : List α) : (sort moves items).Perm items := by
  have all := @sortBack_perm _ moves items []
  rw [List.append_nil] at all
  exact (List.reverse_perm _).trans all

section Order

variable (asymmetric : ∀ a b, moves a b → ¬moves b a)
  (transitive : ∀ a b c, ¬moves a b → ¬moves b c → ¬moves a c)

include asymmetric transitive

lemma insertBack_pairwise (item : α) {placed : List α}
    (ordered : placed.Pairwise fun later earlier => ¬moves earlier later) :
    (insertBack moves item placed).Pairwise fun later earlier => ¬moves earlier later := by
  induction placed with
  | nil => exact List.pairwise_singleton _ _
  | cons last before ih =>
    obtain ⟨below, rest⟩ := List.pairwise_cons.mp ordered
    unfold insertBack
    split
    · next makesRoom =>
      refine List.pairwise_cons.mpr ⟨fun entry listed => ?_, ih rest⟩
      rcases List.mem_cons.mp ((insertBack_perm item before).mem_iff.mp listed) with rfl | old
      · exact asymmetric last entry makesRoom
      · exact below entry old
    · next stays =>
      refine List.pairwise_cons.mpr ⟨fun entry listed => ?_, ordered⟩
      rcases List.mem_cons.mp listed with rfl | old
      · exact stays
      · exact transitive entry last item (below entry old) stays

lemma sortBack_pairwise (items : List α) {placed : List α}
    (ordered : placed.Pairwise fun later earlier => ¬moves earlier later) :
    (sortBack moves items placed).Pairwise fun later earlier => ¬moves earlier later := by
  induction items generalizing placed with
  | nil => exact ordered
  | cons item rest ih => exact ih (insertBack_pairwise asymmetric transitive item ordered)

/-- No entry has to make room for a later one. -/
theorem sort_pairwise (items : List α) :
    (sort moves items).Pairwise fun earlier later => ¬moves earlier later :=
  List.pairwise_reverse.mpr (sortBack_pairwise asymmetric transitive items List.Pairwise.nil)

/-- The first entries of the result are ones that no other entry has to go before. -/
theorem sort_take_le (items : List α) (count : ℕ) {kept dropped : α}
    (inFront : kept ∈ (sort moves items).take count)
    (behind : dropped ∈ (sort moves items).drop count) : ¬moves kept dropped := by
  have ordered := sort_pairwise asymmetric transitive items
  rw [← List.take_append_drop count (sort moves items)] at ordered
  exact (List.pairwise_append.mp ordered).2.2 kept inFront dropped behind

end Order

end InsertionSort
