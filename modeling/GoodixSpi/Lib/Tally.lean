import Mathlib.Algebra.BigOperators.Group.List.Basic
import Mathlib.Algebra.Ring.Nat
import Mathlib.Data.List.GetD
import Mathlib.Order.Bounds.Basic
import Mathlib.Tactic.Lemma

/-! Histograms, and where a running sum over one first reaches a mark. The running sums of a
histogram count the items below a cell. -/

namespace Tally

variable {α : Type} (cell : α → ℕ)

def add (bins : List ℕ) (item : α) : List ℕ := bins.modify (cell item) (· + 1)

def tally (size : ℕ) (items : List α) : List ℕ := items.foldl (add cell) (List.replicate size 0)

/-- The first bin at which the running sum has reached its mark. -/
def crossing (reached : ℕ → Bool) : ℕ → ℕ → List ℕ → Option ℕ
  | _, _, [] => none
  | index, sum, count :: rest =>
    if reached (sum + count) then some index else crossing reached (index + 1) (sum + count) rest

variable {cell}

/-! ### The bins -/

lemma length_foldl_add (items : List α) (bins : List ℕ) :
    (items.foldl (add cell) bins).length = bins.length := by
  induction items generalizing bins with
  | nil => rfl
  | cons item rest ih => rw [List.foldl_cons, ih, add, List.length_modify]

lemma getD_foldl_add (items : List α) {bins : List ℕ} {bin : ℕ} (inside : bin < bins.length) :
    (items.foldl (add cell) bins).getD bin 0 =
      bins.getD bin 0 + items.countP fun item => cell item = bin := by
  induction items generalizing bins with
  | nil => rfl
  | cons item rest ih =>
    have step : (bins.modify (cell item) (· + 1)).getD bin 0 =
        bins.getD bin 0 + if cell item = bin then 1 else 0 := by
      rw [List.getD_eq_getElem?_getD, List.getElem?_modify, List.getElem?_eq_getElem inside,
        List.getD_eq_getElem?_getD, List.getElem?_eq_getElem inside]
      split <;> rfl
    rw [List.foldl_cons, ih (by rwa [add, List.length_modify]), List.countP_cons, add, step]
    simp only [decide_eq_true_eq]
    omega

/-- The whole histogram. -/
lemma tally_eq (size : ℕ) (items : List α) :
    tally cell size items =
      (List.range size).map fun bin => items.countP fun item => cell item = bin := by
  have length : (tally cell size items).length = size := by
    rw [tally, length_foldl_add, List.length_replicate]
  refine List.ext_getElem (by rw [length, List.length_map, List.length_range])
    fun bin inside _ => ?_
  have present : bin < (List.replicate size 0).length := by
    rw [List.length_replicate, ← length]
    exact inside
  have read := @getD_foldl_add α cell items _ bin present
  rw [List.getD_eq_getElem?_getD, List.getElem?_eq_getElem (by rwa [length_foldl_add]),
    Option.getD_some, List.getD_replicate _ (by rwa [← List.length_replicate (n := size)]),
    Nat.zero_add] at read
  rw [List.getElem_map, List.getElem_range]
  exact read

/-- A running sum counts the items below a bin. -/
lemma sum_take_tally {size bin : ℕ} (items : List α) (inside : bin ≤ size) :
    ((tally cell size items).take bin).sum = items.countP fun item => cell item < bin := by
  rw [tally_eq, ← List.map_take, List.take_range, Nat.min_eq_left inside]
  clear inside
  induction bin with
  | zero =>
    rw [List.range_zero, List.map_nil, List.sum_nil]
    refine (List.countP_eq_zero.mpr fun item _ => ?_).symm
    simp only [Nat.not_lt_zero, decide_false, Bool.false_eq_true, not_false_iff]
  | succ bin ih =>
    rw [List.range_succ, List.map_append, List.sum_append, ih, List.map_singleton,
      List.sum_singleton]
    clear ih
    induction items with
    | nil => rfl
    | cons item rest ih =>
      rw [List.countP_cons, List.countP_cons, List.countP_cons, ← ih]
      simp only [decide_eq_true_eq]
      split <;> split <;> split <;> omega

lemma sum_tally {size : ℕ} {items : List α} (inside : ∀ item ∈ items, cell item < size) :
    (tally cell size items).sum = items.length := by
  have length : (tally cell size items).length = size := by
    rw [tally, length_foldl_add, List.length_replicate]
  have whole := @sum_take_tally α cell size size items le_rfl
  rw [List.take_of_length_le length.le] at whole
  rw [whole, List.countP_eq_length.mpr fun item listed => decide_eq_true (inside item listed)]

/-! ### The first crossing -/

lemma crossing_spec (reached : ℕ → Bool) (bins : List ℕ) (index sum : ℕ) :
    match crossing reached index sum bins with
    | some bin => ∃ offset, bin = index + offset ∧ offset < bins.length ∧
        reached (sum + (bins.take (offset + 1)).sum) = true ∧
        ∀ earlier < offset, reached (sum + (bins.take (earlier + 1)).sum) = false
    | none => ∀ offset < bins.length, reached (sum + (bins.take (offset + 1)).sum) = false := by
  induction bins generalizing index sum with
  | nil => exact fun offset inside => absurd inside (Nat.not_lt_zero _)
  | cons count rest ih =>
    rw [crossing]
    by_cases here : reached (sum + count) = true
    · rw [if_pos here]
      exact ⟨0, rfl, Nat.zero_lt_succ _, by simpa using here,
        fun earlier before => absurd before (Nat.not_lt_zero _)⟩
    · rw [if_neg here]
      have first : reached (sum + count) = false := by simpa using here
      have later := ih (index + 1) (sum + count)
      have shift (offset : ℕ) : sum + ((count :: rest).take (offset + 1 + 1)).sum =
          sum + count + (rest.take (offset + 1)).sum := by
        rw [List.take_succ_cons, List.sum_cons, Nat.add_assoc]
      split at later
      · obtain ⟨offset, rfl, inside, crossed, before⟩ := later
        refine ⟨offset + 1, by omega, Nat.succ_lt_succ inside, ?_, fun earlier less => ?_⟩
        · rw [shift]
          exact crossed
        · cases earlier with
          | zero => simpa using first
          | succ earlier =>
            rw [shift]
            exact before earlier (Nat.lt_of_succ_lt_succ less)
      · intro offset inside
        cases offset with
        | zero => simpa using first
        | succ offset =>
          rw [shift]
          exact later offset (Nat.lt_of_succ_lt_succ inside)

lemma crossing_some {reached : ℕ → Bool} {bins : List ℕ} {sum bin : ℕ}
    (crossed : crossing reached 0 sum bins = some bin) : bin < bins.length ∧
      reached (sum + (bins.take (bin + 1)).sum) = true ∧
      ∀ earlier < bin, reached (sum + (bins.take (earlier + 1)).sum) = false := by
  have found := crossing_spec reached bins 0 sum
  rw [crossed] at found
  obtain ⟨offset, rfl, rest⟩ := found
  rwa [Nat.zero_add]

lemma crossing_none {reached : ℕ → Bool} {bins : List ℕ} {sum : ℕ}
    (never : crossing reached 0 sum bins = none) (bin : ℕ) (inside : bin < bins.length) :
    reached (sum + (bins.take (bin + 1)).sum) = false := by
  have found := crossing_spec reached bins 0 sum
  rw [never] at found
  exact found bin inside

end Tally
