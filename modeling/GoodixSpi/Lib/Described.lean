import Mathlib.Data.List.Basic

/-! Two arrays side by side: the second holds what was read off the entries of the first. -/

namespace Described

variable {α β : Type}

/-- The first `count` readings are those of the entries at the same places. -/
def UpTo (read : α → β) (count : ℕ) (items : List α) (readings : List β) : Prop :=
  ∀ i < count, readings[i]? = items[i]?.map read

def swapAt (items : List α) (i j : ℕ) : List α :=
  match items[i]?, items[j]? with
  | some first, some second => (items.set i second).set j first
  | _, _ => items

variable {read : α → β} {count : ℕ} {items : List α} {readings : List β}

@[simp] lemma length_swapAt (items : List α) (i j : ℕ) :
    (swapAt items i j).length = items.length := by
  unfold swapAt
  split
  · rw [List.length_set, List.length_set]
  · rfl

lemma swapAt_eq {i j : ℕ} (hi : i < items.length) (hj : j < items.length) :
    swapAt items i j = (items.set i items[j]).set j items[i] := by
  unfold swapAt
  rw [List.getElem?_eq_getElem hi, List.getElem?_eq_getElem hj]

lemma getElem?_swapAt_right {i j : ℕ} (hi : i < items.length) (hj : j < items.length) :
    (swapAt items i j)[j]? = items[i]? := by
  rw [swapAt_eq hi hj, List.getElem?_set_self (by rwa [List.length_set]),
    List.getElem?_eq_getElem hi]

lemma getElem?_swapAt_left {i j : ℕ} (hi : i < items.length) (hj : j < items.length) :
    (swapAt items i j)[i]? = items[j]? := by
  by_cases same : i = j
  · subst same
    exact getElem?_swapAt_right hi hj
  · rw [swapAt_eq hi hj, List.getElem?_set_ne (Ne.symm same), List.getElem?_set_self hi,
      List.getElem?_eq_getElem hj]

lemma getElem?_swapAt_of_ne {i j k : ℕ} (hi : i < items.length) (hj : j < items.length)
    (nei : k ≠ i) (nej : k ≠ j) : (swapAt items i j)[k]? = items[k]? := by
  rw [swapAt_eq hi hj, List.getElem?_set_ne nej.symm, List.getElem?_set_ne nei.symm]

/-- Entries that change places with their readings stay described, and no others become so. -/
theorem upTo_swapAt_iff {i j : ℕ} (hi : i < count) (hj : j < count)
    (fits : count ≤ items.length) (fitsToo : count ≤ readings.length) :
    UpTo read count (swapAt items i j) (swapAt readings i j) ↔ UpTo read count items readings := by
  have left : (swapAt items i j)[i]? = items[j]? :=
    getElem?_swapAt_left (by omega) (by omega)
  have right : (swapAt items i j)[j]? = items[i]? :=
    getElem?_swapAt_right (by omega) (by omega)
  have leftToo : (swapAt readings i j)[i]? = readings[j]? :=
    getElem?_swapAt_left (by omega) (by omega)
  have rightToo : (swapAt readings i j)[j]? = readings[i]? :=
    getElem?_swapAt_right (by omega) (by omega)
  have rest {k : ℕ} (nei : k ≠ i) (nej : k ≠ j) : (swapAt items i j)[k]? = items[k]? :=
    getElem?_swapAt_of_ne (by omega) (by omega) nei nej
  have restToo {k : ℕ} (nei : k ≠ i) (nej : k ≠ j) : (swapAt readings i j)[k]? = readings[k]? :=
    getElem?_swapAt_of_ne (by omega) (by omega) nei nej
  constructor
  · intro described k inside
    by_cases nei : k = i
    · subst nei
      rw [← rightToo, ← right]
      exact described j hj
    by_cases nej : k = j
    · subst nej
      rw [← leftToo, ← left]
      exact described i hi
    · rw [← restToo nei nej, ← rest nei nej]
      exact described k inside
  · intro described k inside
    by_cases nei : k = i
    · subst nei
      rw [leftToo, left]
      exact described j hj
    by_cases nej : k = j
    · subst nej
      rw [rightToo, right]
      exact described i hi
    · rw [restToo nei nej, rest nei nej]
      exact described k inside

/-- Only the readings of the entries matter. -/
lemma upTo_congr {items' : List α} (same : items'.map read = items.map read) :
    UpTo read count items' readings ↔ UpTo read count items readings := by
  unfold UpTo
  simp only [← List.getElem?_map, same]

/-- The readings of all entries, beside other entries. -/
lemma upTo_iff_take {all : List α} :
    UpTo read count items (all.map read) ↔
      (items.take count).map read = (all.take count).map read := by
  constructor
  · intro described
    apply List.ext_getElem?
    intro i
    rw [List.getElem?_map, List.getElem?_map]
    by_cases inside : i < count
    · rw [List.getElem?_take_of_lt inside, List.getElem?_take_of_lt inside, ← described i inside,
        List.getElem?_map]
    · rw [List.getElem?_take_eq_none (by omega), List.getElem?_take_eq_none (by omega)]
  · intro same i inside
    have here := congrArg (·[i]?) same
    rw [List.getElem?_map, List.getElem?_map, List.getElem?_take_of_lt inside,
      List.getElem?_take_of_lt inside] at here
    rw [List.getElem?_map, here]

end Described
