import Mathlib.Algebra.GroupWithZero.Nat
import Mathlib.Tactic.Lemma
import Mathlib.Data.Nat.Notation

/-! Arithmetic in an unsigned type, which fails where the result does not fit. -/

namespace Unsigned

variable {bits a b : ℕ}

def fit (bits value : ℕ) : Option ℕ := if value < 2 ^ bits then some value else none

def add (bits a b : ℕ) : Option ℕ := fit bits (a + b)

def mul (bits a b : ℕ) : Option ℕ := fit bits (a * b)

def shiftLeft (bits a amount : ℕ) : Option ℕ := fit bits (a * 2 ^ amount)

def sub (a b : ℕ) : Option ℕ := if b ≤ a then some (a - b) else none

lemma fit_eq {value : ℕ} (fits : value < 2 ^ bits) : fit bits value = some value := if_pos fits

lemma add_eq (fits : a + b < 2 ^ bits) : add bits a b = some (a + b) := if_pos fits

lemma mul_eq (fits : a * b < 2 ^ bits) : mul bits a b = some (a * b) := if_pos fits

lemma sub_eq (enough : b ≤ a) : sub a b = some (a - b) := if_pos enough

lemma shiftLeft_eq {amount : ℕ} (fits : a * 2 ^ amount < 2 ^ bits) :
    shiftLeft bits a amount = some (a * 2 ^ amount) := if_pos fits

end Unsigned
