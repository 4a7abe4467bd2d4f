import GoodixSpi.Lib.CArithmetic
import Mathlib.Algebra.Order.Ring.Abs
import Mathlib.Algebra.Order.Ring.Int
import Mathlib.Algebra.BigOperators.Group.List.Basic

/-! What a signed integer type can hold: single values, and sums that are formed in it term by
term. -/

namespace CArithmetic

/-- A value of the signed type of that many bits. -/
def FitsIn (bits : Nat) (value : Int) : Prop :=
  -2 ^ (bits - 1) ≤ value ∧ value < 2 ^ (bits - 1)

instance (bits : Nat) (value : Int) : Decidable (FitsIn bits value) :=
  inferInstanceAs (Decidable (_ ∧ _))

/-- The terms that are added to a sum, and the sum after each of them. -/
def SumFits (bits : Nat) : Int → List Int → Prop
  | _, [] => True
  | sum, term :: rest => FitsIn bits term ∧ FitsIn bits (sum + term) ∧ SumFits bits (sum + term) rest

instance decidableSumFits (bits : Nat) : ∀ (sum : Int) (terms : List Int),
    Decidable (SumFits bits sum terms)
  | _, [] => inferInstanceAs (Decidable True)
  | sum, term :: rest =>
    have := decidableSumFits bits (sum + term) rest
    inferInstanceAs (Decidable (_ ∧ _ ∧ _))

lemma fitsIn_32 {value : Int} : FitsIn 32 value ↔ -2 ^ 31 ≤ value ∧ value < 2 ^ 31 := Iff.rfl

lemma fitsIn_64 {value : Int} : FitsIn 64 value ↔ -2 ^ 63 ≤ value ∧ value < 2 ^ 63 := Iff.rfl

lemma fitsIn_of_abs_lt {bits : Nat} {value : Int} (small : |value| < 2 ^ (bits - 1)) :
    FitsIn bits value := by
  rw [abs_lt] at small
  exact ⟨small.1.le, small.2⟩

lemma abs_mul_le {x y m n : Int} (hx : |x| ≤ m) (hy : |y| ≤ n) : |x * y| ≤ m * n := by
  rw [abs_mul]
  exact mul_le_mul hx hy (abs_nonneg y) ((abs_nonneg x).trans hx)

/-- A quotient is not larger than the dividend. -/
lemma abs_quotient_le (a b : Int) : |quotient a b| ≤ |a| := by
  rw [Int.abs_eq_natAbs, Int.abs_eq_natAbs]
  exact_mod_cast Int.natAbs_tdiv_le_natAbs a b

/-- Terms that are not negative and have room for all of them. -/
lemma sumFits_of_nonneg {bits : Nat} {bound : Int} {terms : List Int}
    (each : ∀ term ∈ terms, 0 ≤ term ∧ term ≤ bound) {sum : Int} (nonneg : 0 ≤ sum)
    (room : sum + terms.length * bound < 2 ^ (bits - 1)) : SumFits bits sum terms := by
  induction terms generalizing sum with
  | nil => trivial
  | cons term rest ih =>
    obtain ⟨low, high⟩ := each term List.mem_cons_self
    have others : 0 ≤ (rest.length : Int) * bound :=
      mul_nonneg (Int.natCast_nonneg _) (low.trans high)
    have whole : ((term :: rest).length : Int) * bound = rest.length * bound + bound := by
      rw [List.length_cons, Nat.cast_succ, add_mul, one_mul]
    have positive : (0 : Int) ≤ 2 ^ (bits - 1) := Int.pow_nonneg (by decide)
    rw [whole] at room
    refine ⟨⟨by omega, by omega⟩, ⟨by omega, by omega⟩, ?_⟩
    exact ih (fun other listed => each other (List.mem_cons_of_mem _ listed)) (by omega) (by omega)

lemma sum_mem_of_nonneg {bound : Int} {terms : List Int}
    (each : ∀ term ∈ terms, 0 ≤ term ∧ term ≤ bound) :
    0 ≤ terms.sum ∧ terms.sum ≤ terms.length * bound := by
  induction terms with
  | nil => simp
  | cons term rest ih =>
    obtain ⟨low, high⟩ := each term List.mem_cons_self
    obtain ⟨below, above⟩ := ih fun other listed => each other (List.mem_cons_of_mem _ listed)
    have whole : ((term :: rest).length : Int) * bound = rest.length * bound + bound := by
      rw [List.length_cons, Nat.cast_succ, add_mul, one_mul]
    rw [whole, List.sum_cons]
    omega

end CArithmetic
