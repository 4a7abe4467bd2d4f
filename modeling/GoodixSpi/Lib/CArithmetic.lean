import Mathlib.Tactic.Lemma
import Mathlib.Data.Int.Init
import Mathlib.Algebra.Group.Int.Defs
import Mathlib.Algebra.GroupWithZero.Nat

/-! Integer operations whose C meaning differs from the default one in Lean. -/

namespace CArithmetic

/-- Division rounds toward zero. A zero divisor gives zero here; callers guard it. -/
def quotient (a b : Int) : Int := a.tdiv b

/-- `>>` on a signed value. -/
def shiftRight (a : Int) (bits : Nat) : Int := a / 2 ^ bits

/-- The value a `gint32` keeps. -/
def wrap32 (a : Int) : Int := a.bmod (2 ^ 32)

def bitCount : Nat → Nat → Nat
  | 0, _ => 0
  | width + 1, n => if n = 0 then 0 else n % 2 + bitCount width (n / 2)

def popCount (word : UInt32) : Nat := bitCount 32 word.toNat

lemma wrap32_range (a : Int) : -2 ^ 31 ≤ wrap32 a ∧ wrap32 a < 2 ^ 31 := by
  have low := Int.le_bmod (x := a) (m := 2 ^ 32) (by decide)
  have high := Int.bmod_lt (x := a) (m := 2 ^ 32) (by decide)
  simp only [wrap32]
  omega

lemma wrap32_of_range {a : Int} (low : -2 ^ 31 ≤ a) (high : a < 2 ^ 31) : wrap32 a = a := by
  have h := Int.bmod_def a (2 ^ 32)
  simp only [wrap32]
  rw [h]
  split <;> omega

lemma bitCount_le (width n : Nat) : bitCount width n ≤ width := by
  induction width generalizing n with
  | zero => exact Nat.le_refl 0
  | succ width ih =>
    have rest := ih (n / 2)
    unfold bitCount
    split <;> omega

lemma popCount_le (word : UInt32) : popCount word ≤ 32 := bitCount_le 32 word.toNat

/-- A 32-bit accumulator that has room for the whole sum does not wrap. -/
lemma toNat_foldl_add32 {α : Type} (items : List α) (value : α → UInt32) (start : UInt32)
    (fits : start.toNat + (items.map fun item => (value item).toNat).sum < 2 ^ 32) :
    (items.foldl (fun sum item => sum + value item) start).toNat =
      start.toNat + (items.map fun item => (value item).toNat).sum := by
  induction items generalizing start with
  | nil => rfl
  | cons item rest ih =>
    rw [List.map_cons, List.sum_cons] at fits ⊢
    have step : (start + value item).toNat = start.toNat + (value item).toNat := by
      rw [UInt32.toNat_add, Nat.mod_eq_of_lt (by omega)]
    rw [List.foldl_cons, ih _ (by rw [step]; omega), step, Nat.add_assoc]

lemma toNat_foldl_add64 {α : Type} (items : List α) (value : α → UInt64) (start : UInt64)
    (fits : start.toNat + (items.map fun item => (value item).toNat).sum < 2 ^ 64) :
    (items.foldl (fun sum item => sum + value item) start).toNat =
      start.toNat + (items.map fun item => (value item).toNat).sum := by
  induction items generalizing start with
  | nil => rfl
  | cons item rest ih =>
    rw [List.map_cons, List.sum_cons] at fits ⊢
    have step : (start + value item).toNat = start.toNat + (value item).toNat := by
      rw [UInt64.toNat_add, Nat.mod_eq_of_lt (by omega)]
    rw [List.foldl_cons, ih _ (by rw [step]; omega), step, Nat.add_assoc]

@[simp] lemma popCount_zero : popCount 0 = 0 := by decide

end CArithmetic
