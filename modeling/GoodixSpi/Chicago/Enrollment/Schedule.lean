import GoodixSpi.Chicago.Enrollment.State
import Mathlib.Data.List.Perm.Subperm
import Mathlib.Data.List.Nodup

/-! The match order. Its first entries visit every sub-template once; the entries after
them are empty. -/

namespace GoodixSpi.Chicago

structure Scheduled (order : Nat → UInt32) (count capacity : Nat) : Prop where
  below : ∀ schedule < count, (order schedule).toNat < count
  distinct : ∀ schedule < count, ∀ previous < schedule, order previous ≠ order schedule
  empty : ∀ schedule, count ≤ schedule → schedule < capacity → order schedule = maxUInt32

namespace Scheduled

variable {order order' : Nat → UInt32} {count capacity : Nat}

/-- Only the first `capacity` entries of an order matter to a schedule. -/
lemma congr (h : Scheduled order count capacity) (fits : count ≤ capacity)
    (same : ∀ schedule < capacity, order' schedule = order schedule) :
    Scheduled order' count capacity where
  below schedule used := by
    rw [same schedule (by omega)]
    exact h.below schedule used
  distinct schedule used previous earlier := by
    rw [same schedule (by omega), same previous (by omega)]
    exact h.distinct schedule used previous earlier
  empty schedule free below := by
    rw [same schedule below]
    exact h.empty schedule free below

lemma nodup (h : Scheduled order count capacity) :
    ((List.range count).map fun schedule => (order schedule).toNat).Nodup := by
  refine (List.nodup_map_iff_inj_on List.nodup_range).mpr fun a ha b hb same => ?_
  have value := UInt32.toNat_inj.mp same
  by_contra differ
  rcases Nat.lt_or_gt_of_ne differ with earlier | earlier
  · exact h.distinct b (List.mem_range.mp hb) a earlier value
  · exact h.distinct a (List.mem_range.mp ha) b earlier value.symm

/-- A schedule visits every sub-template exactly once. -/
theorem perm (h : Scheduled order count capacity) :
    ((List.range count).map fun schedule => (order schedule).toNat).Perm (List.range count) := by
  have below : ((List.range count).map fun schedule => (order schedule).toNat) ⊆
      List.range count := by
    intro index listed
    obtain ⟨schedule, used, rfl⟩ := List.mem_map.mp listed
    exact List.mem_range.mpr (h.below schedule (List.mem_range.mp used))
  exact (h.nodup.subperm below).perm_of_length_le (by simp)

end Scheduled

namespace Enrollment

variable {self : Enrollment}

lemma orderAt_eq {schedule : Nat} (inside : schedule < enrollmentCapacity) :
    self.orderAt schedule = self.matchOrder[schedule] := by
  simp [orderAt, inside]

lemma orderAt_outside {schedule : Nat} (outside : enrollmentCapacity ≤ schedule) :
    self.orderAt schedule = maxUInt32 := by
  rw [orderAt, List.getD_eq_getElem?_getD, List.getElem?_eq_none (by simpa using outside)]
  rfl

lemma matchOrder_ext {other : Enrollment}
    (same : ∀ schedule < enrollmentCapacity, self.orderAt schedule = other.orderAt schedule) :
    self.matchOrder = other.matchOrder := by
  ext schedule inside
  rw [← orderAt_eq inside, ← orderAt_eq inside, same schedule inside]

/-- Appending: the next free entry names the new sub-template. -/
lemma orderAt_setMatchOrder {other : Enrollment} {index : Nat}
    (set : other.matchOrder = self.setMatchOrder index index) (inside : index < enrollmentCapacity)
    (schedule : Nat) :
    other.orderAt schedule =
      if schedule = index then UInt32.ofNat index else self.orderAt schedule := by
  by_cases within : schedule < enrollmentCapacity
  · rw [orderAt_eq within, orderAt_eq within]
    simp only [set, setMatchOrder]
    rw [Vector.getElem_setIfInBounds]
    by_cases same : schedule = index
    · simp [same]
    · have : index ≠ schedule := fun e => same e.symm
      simp [this, same]
  · rw [orderAt_outside (by omega), orderAt_outside (by omega), if_neg (by omega)]

end Enrollment

lemma toNat_ofNat_of_lt {n : Nat} (h : n < 2 ^ 32) : (UInt32.ofNat n).toNat = n := by
  rw [UInt32.toNat_ofNat']
  exact Nat.mod_eq_of_lt h

/-- The schedule after an append. -/
lemma Scheduled.append {self other : Enrollment} {count capacity : Nat}
    (h : Scheduled self.orderAt count capacity) (room : count < enrollmentCapacity)
    (set : other.matchOrder = self.setMatchOrder count count) :
    Scheduled other.orderAt (count + 1) capacity := by
  have fifty : enrollmentCapacity = 50 := rfl
  have at_ := Enrollment.orderAt_setMatchOrder set room
  have value := toNat_ofNat_of_lt (n := count) (by omega)
  refine ⟨fun schedule used => ?_, fun schedule used previous earlier => ?_,
    fun schedule free below => ?_⟩
  · rw [at_]
    by_cases last : schedule = count
    · rw [if_pos last, value]
      omega
    · rw [if_neg last]
      have := h.below schedule (by omega)
      omega
  · rw [at_, at_]
    have differs : previous ≠ count := by omega
    rw [if_neg differs]
    by_cases last : schedule = count
    · rw [if_pos last]
      intro same
      have small := h.below previous (by omega)
      rw [same, value] at small
      omega
    · rw [if_neg last]
      exact h.distinct schedule (by omega) previous earlier
  · rw [at_, if_neg (by omega)]
    exact h.empty schedule (by omega) below

end GoodixSpi.Chicago
