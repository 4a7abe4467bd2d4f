import Mathlib.Algebra.BigOperators.Intervals
import Mathlib.Tactic.Abel
import Mathlib.Tactic.Lemma

/-! Summed-area tables. Each row is filled in one sweep from the row before it, and four entries
give the sum over any rectangle. Only the group laws are used, so a table whose entries wrap still
gives every rectangle. -/

namespace SummedArea

open Finset

variable {α : Type} [AddCommGroup α]

/-- A row, from its values and the row before it; `left` and `corner` are the entries of the two
rows just before these. -/
def sweep (left corner : α) : List α → List α → List α
  | value :: values, above :: rest =>
    let entry := value + left + above - corner
    entry :: sweep entry above values rest
  | _, _ => []

/-- Row `y` of the table of `terms`, whose first row and column are zero. -/
def row (width : ℕ) (terms : ℕ → ℕ → α) : ℕ → List α
  | 0 => List.replicate (width + 1) 0
  | y + 1 =>
    let above := row width terms y
    0 :: sweep 0 (above.headD 0) ((List.range width).map fun x => terms (x + 1) (y + 1)) above.tail

/-- All terms from the first to column `x` of row `y`. -/
def corner (terms : ℕ → ℕ → α) (x y : ℕ) : α :=
  ∑ j ∈ range y, ∑ i ∈ range x, terms (i + 1) (j + 1)

lemma length_sweep (left corner : α) (values above : List α) :
    (sweep left corner values above).length = min values.length above.length := by
  fun_induction sweep left corner values above with
  | case1 left corner value values above rest entry ih =>
    simp only [List.length_cons, ih]
    omega
  | case2 values left corner above empty =>
    cases values with
    | nil => simp
    | cons value values =>
      cases above with
      | nil => simp
      | cons above rest => exact absurd rfl (empty value values above rest rfl)

/-- What an entry adds to the one above it is the sum of the values so far. -/
lemma sweep_getD (left corner : α) {values above : List α} {i : ℕ} (inValues : i < values.length)
    (inAbove : i < above.length) :
    (sweep left corner values above).getD i 0 =
      above.getD i 0 + (left - corner) + ∑ k ∈ range (i + 1), values.getD k 0 := by
  induction values generalizing left corner above i with
  | nil => exact absurd inValues (Nat.not_lt_zero i)
  | cons value values ih =>
    cases above with
    | nil => exact absurd inAbove (Nat.not_lt_zero i)
    | cons up rest =>
      rw [sweep]
      cases i with
      | zero =>
        rw [zero_add, sum_range_one]
        simp only [List.getD_cons_zero]
        abel
      | succ i =>
        rw [sum_range_succ']
        simp only [List.getD_cons_succ, List.getD_cons_zero]
        rw [ih _ _ (Nat.lt_of_succ_lt_succ inValues) (Nat.lt_of_succ_lt_succ inAbove)]
        abel

lemma length_row (width : ℕ) (terms : ℕ → ℕ → α) (y : ℕ) :
    (row width terms y).length = width + 1 := by
  induction y with
  | zero => rw [row, List.length_replicate]
  | succ y ih =>
    rw [row, List.length_cons, length_sweep, List.length_map, List.length_range, List.length_tail,
      ih]
    simp

/-- Every entry is the sum of all terms before it in both directions. -/
theorem row_getD (terms : ℕ → ℕ → α) {width x : ℕ} (inside : x ≤ width) (y : ℕ) :
    (row width terms y).getD x 0 = corner terms x y := by
  induction y generalizing x with
  | zero =>
    rw [row, corner, sum_range_zero, List.getD_eq_getElem?_getD,
      List.getElem?_replicate_of_lt (Nat.lt_succ_of_le inside), Option.getD_some]
  | succ y ih =>
    have size := length_row width terms y
    rw [row]
    cases x with
    | zero => simp [corner]
    | succ x =>
      have first : (row width terms y).headD 0 = 0 := by
        have zero := ih (Nat.zero_le width)
        rw [corner] at zero
        simp only [range_zero, sum_empty, sum_const_zero] at zero
        rwa [List.headD_eq_head?_getD, List.head?_eq_getElem?, ← List.getD_eq_getElem?_getD]
      have above : (row width terms y).tail.getD x 0 = corner terms (x + 1) y := by
        rw [← ih inside, List.getD_eq_getElem?_getD, List.getD_eq_getElem?_getD,
          List.getElem?_tail]
      rw [List.getD_cons_succ, sweep_getD _ _ (by simpa using inside)
        (by rw [List.length_tail, size]; omega), first, above, corner, corner, sum_range_succ _ y,
        sub_zero, add_zero]
      refine congrArg _ (sum_congr rfl fun k below => ?_)
      rw [List.getD_eq_getElem?_getD, List.getElem?_map,
        List.getElem?_range (by have := mem_range.mp below; omega), Option.map_some,
        Option.getD_some]

/-- Four entries give the sum over a rectangle. -/
theorem corner_rectangle (terms : ℕ → ℕ → α) {left right top bottom : ℕ} (wide : left ≤ right)
    (high : top ≤ bottom) :
    corner terms right bottom - corner terms left bottom - corner terms right top +
        corner terms left top =
      ∑ y ∈ Ico top bottom, ∑ x ∈ Ico left right, terms (x + 1) (y + 1) := by
  have strip (x : ℕ) : ∑ y ∈ Ico top bottom, ∑ i ∈ range x, terms (i + 1) (y + 1) =
      corner terms x bottom - corner terms x top := by
    rw [sum_Ico_eq_sub _ high]
    rfl
  have split : ∑ y ∈ Ico top bottom, ∑ x ∈ Ico left right, terms (x + 1) (y + 1) =
      ∑ y ∈ Ico top bottom, ∑ i ∈ range right, terms (i + 1) (y + 1) -
        ∑ y ∈ Ico top bottom, ∑ i ∈ range left, terms (i + 1) (y + 1) := by
    rw [← sum_sub_distrib]
    exact sum_congr rfl fun y _ => sum_Ico_eq_sub _ wide
  rw [split, strip, strip]
  abel

end SummedArea
