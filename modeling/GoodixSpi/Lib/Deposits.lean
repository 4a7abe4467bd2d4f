import Mathlib.Algebra.BigOperators.Group.List.Basic
import Mathlib.Algebra.Order.BigOperators.Group.List
import Mathlib.Algebra.Order.Group.Nat
import Mathlib.Algebra.Ring.Nat
import Mathlib.Data.List.GetD
import Mathlib.Data.List.Nodup
import Mathlib.Tactic.Lemma

/-! Deposits into cells that are machine words. As long as everything together fits in a word, each
cell holds what was deposited in it, and different cells hold no more than there was. -/

namespace Deposits

variable {α : Type} (cell : α → ℕ) (amount : α → UInt32)

def deposit (cells : List UInt32) (item : α) : List UInt32 :=
  cells.modify (cell item) (· + amount item)

def total (items : List α) : ℕ := (items.map fun item => (amount item).toNat).sum

/-- What belongs in one cell. -/
def held (index : ℕ) (items : List α) : ℕ :=
  total amount (items.filter fun item => cell item = index)

variable {cell amount}

lemma total_cons (item : α) (rest : List α) :
    total amount (item :: rest) = (amount item).toNat + total amount rest := List.sum_cons

lemma total_append (front back : List α) :
    total amount (front ++ back) = total amount front + total amount back := by
  rw [total, List.map_append, List.sum_append]
  rfl

lemma total_flatMap_le {β : Type} {deposits : β → List α} {bound : ℕ} (sources : List β)
    (small : ∀ source ∈ sources, total amount (deposits source) ≤ bound) :
    total amount (sources.flatMap deposits) ≤ sources.length * bound := by
  induction sources with
  | nil => exact Nat.zero_le _
  | cons source rest ih =>
    rw [List.flatMap_cons, total_append, List.length_cons, Nat.succ_mul, Nat.add_comm]
    exact Nat.add_le_add (ih fun other listed => small other (List.mem_cons_of_mem source listed))
      (small source List.mem_cons_self)

lemma held_cons (index : ℕ) (item : α) (rest : List α) : held cell amount index (item :: rest) =
    (if cell item = index then (amount item).toNat else 0) + held cell amount index rest := by
  unfold held
  rw [List.filter_cons]
  by_cases here : cell item = index
  · rw [if_pos (by simpa using here), if_pos here, total_cons]
  · rw [if_neg (by simpa using here), if_neg here, Nat.zero_add]

lemma getD_modify (cells : List UInt32) (place index : ℕ) (more : UInt32)
    (inside : index < cells.length) : (cells.modify place (· + more)).getD index 0 =
      cells.getD index 0 + if place = index then more else 0 := by
  rw [List.getD_eq_getElem?_getD, List.getElem?_modify, List.getElem?_eq_getElem inside,
    List.getD_eq_getElem?_getD, List.getElem?_eq_getElem inside]
  split
  · rfl
  · rw [UInt32.add_zero]
    rfl

/-- The loop over all deposits, up to the width of a word. -/
lemma toNat_getD_foldl (items : List α) (cells : List UInt32) {index : ℕ}
    (inside : index < cells.length) :
    ((items.foldl (deposit cell amount) cells).getD index 0).toNat =
      ((cells.getD index 0).toNat + held cell amount index items) % 2 ^ 32 := by
  induction items generalizing cells with
  | nil => exact (Nat.mod_eq_of_lt (UInt32.toNat_lt _)).symm
  | cons item rest ih =>
    rw [List.foldl_cons, ih _ (by rwa [deposit, List.length_modify]), deposit,
      getD_modify cells _ _ _ inside, UInt32.toNat_add, held_cons, Nat.mod_add_mod, Nat.add_assoc]
    congr 3
    split <;> rfl

lemma held_le_total (index : ℕ) (items : List α) :
    held cell amount index items ≤ total amount items :=
  List.Sublist.sum_le_sum (List.Sublist.map _ List.filter_sublist) fun _ _ => Nat.zero_le _

/-- Nothing wraps. -/
theorem toNat_getD_exact {items : List α} (fits : total amount items < 2 ^ 32) {count index : ℕ}
    (inside : index < count) :
    ((items.foldl (deposit cell amount) (List.replicate count 0)).getD index 0).toNat =
      held cell amount index items := by
  rw [toNat_getD_foldl _ _ (by rwa [List.length_replicate]), List.getD_replicate _ inside]
  refine (Nat.mod_eq_of_lt ?_).trans (Nat.zero_add _)
  exact (Nat.zero_add _).trans_lt ((held_le_total index items).trans_lt fits)

lemma sum_indicator_le {indices : List ℕ} (distinct : indices.Nodup) (place value : ℕ) :
    (indices.map fun index => if place = index then value else 0).sum ≤ value := by
  induction indices with
  | nil => exact Nat.zero_le _
  | cons first rest ih =>
    obtain ⟨fresh, distinct⟩ := List.nodup_cons.mp distinct
    rw [List.map_cons, List.sum_cons]
    split
    · next here =>
      have none : (rest.map fun index => if place = index then value else 0).sum = 0 := by
        refine List.sum_eq_zero fun term listed => ?_
        obtain ⟨index, known, rfl⟩ := List.mem_map.mp listed
        refine if_neg fun same => fresh ?_
        rwa [← here, same]
      exact le_of_eq (by rw [none, Nat.add_zero])
    · exact (Nat.zero_add _).trans_le (ih distinct)

/-- Each deposit is in one cell. -/
theorem sum_held_le {indices : List ℕ} (distinct : indices.Nodup) (items : List α) :
    (indices.map fun index => held cell amount index items).sum ≤ total amount items := by
  induction items with
  | nil =>
    refine le_of_eq (List.sum_eq_zero fun value listed => ?_)
    obtain ⟨index, -, rfl⟩ := List.mem_map.mp listed
    rfl
  | cons item rest ih =>
    simp only [held_cons, total_cons, List.sum_map_add]
    exact Nat.add_le_add (sum_indicator_le distinct _ _) ih

end Deposits
