import GoodixSpi.Lib.Signed
import Mathlib.Tactic.NormNum

/-! The offset of a feature below the pixel: a 3 x 3 system over 16-bit derivatives, solved in 64
bits with the results of its determinants scaled down to 32 bits before they are divided. Every
operation of the source fails here where it would overflow, and so does a cast that would change
the value. -/

namespace GoodixSpi.Chicago

open CArithmetic Checked

/-! ### The solver -/

def bitLengthLoop (magnitude length : ℕ) : ℕ :=
  if magnitude = 0 then length else bitLengthLoop (magnitude / 2) (length + 1)
termination_by magnitude

def magnitudeOf (value : ℤ) : Option ℤ := if value < 0 then Signed.neg 64 value else some value

def signedBitLength (value : ℤ) : Option ℕ := do
  let magnitude ← magnitudeOf value
  some (bitLengthLoop magnitude.toNat 1)

/-- `a * b - c * d`. -/
def productDifference (a b c d : ℤ) : Option ℤ := do
  Signed.sub 64 (← Signed.mul 64 a b) (← Signed.mul 64 c d)

/-- `a * b + c * d + e * f`. -/
def productSum (a b c d e f : ℤ) : Option ℤ := do
  Signed.add 64 (← Signed.add 64 (← Signed.mul 64 a b) (← Signed.mul 64 c d)) (← Signed.mul 64 e f)

/-- A value of a system whose longest one has that many bits. -/
def scaledValue (value : ℤ) (bits : ℕ) : Option ℤ :=
  if bits > 32 then Signed.shift 64 value (bits - 32) else some value

/-- What the loop over the axes computes for one of them. -/
def axisOffset (numerator determinant : ℤ) (determinantBits : ℕ) : Option ℤ := do
  let numeratorBits ← signedBitLength numerator
  if (numeratorBits : ℤ) - determinantBits ≥ 9 then some 0x00ffffff
  else
    let numeratorBits := max numeratorBits determinantBits
    let scaledNumerator ← scaledValue numerator numeratorBits
    let scaledDeterminant ← scaledValue determinant numeratorBits
    Signed.fit 32 (← Signed.divide 64 (← Signed.mul 64 scaledNumerator 0x1000) scaledDeterminant)

/-- The second derivatives `hessian[0]` to `hessian[5]`, under their names in the solver. -/
structure Hessian where
  h00 : Int16
  h11 : Int16
  h22 : Int16
  h01 : Int16
  h12 : Int16
  h02 : Int16

/-- The first derivatives, for the column, the row and the scale. -/
structure Gradient where
  g0 : Int16
  g1 : Int16
  g2 : Int16

def solveRefinementOffset (hessian : Hessian) (gradient : Gradient) : Option (Vector ℤ 3) := do
  let h00 := hessian.h00.toInt
  let h11 := hessian.h11.toInt
  let h22 := hessian.h22.toInt
  let h01 := hessian.h01.toInt
  let h12 := hessian.h12.toInt
  let h02 := hessian.h02.toInt
  let g0 := gradient.g0.toInt
  let g1 := gradient.g1.toInt
  let g2 := gradient.g2.toInt
  let cofactor0 ← productDifference h11 h22 h12 h12
  let cofactor1 ← productDifference h02 h12 h01 h22
  let cofactor2 ← productDifference h01 h12 h02 h11
  let determinant ← productSum h00 cofactor0 h01 cofactor1 h02 cofactor2
  let determinantBits ← signedBitLength determinant
  if determinant = 0 then some #v[0, 0, 0]
  else
    let numerator0 ← Signed.neg 64 (← productSum g0 cofactor0 g1 cofactor1 g2 cofactor2)
    let numerator1 ← Signed.neg 64 (← productSum (← productDifference h00 h22 h02 h02) g1
      (← productDifference h01 h02 h00 h12) g2 g0 cofactor1)
    let numerator2 ← Signed.neg 64 (← productSum (← productDifference h00 h11 h01 h01) g2
      (← productDifference h01 h02 h00 h12) g1 g0 cofactor2)
    let offset0 ← axisOffset numerator0 determinant determinantBits
    let offset1 ← axisOffset numerator1 determinant determinantBits
    let offset2 ← axisOffset numerator2 determinant determinantBits
    some #v[offset0, offset1, offset2]

/-! ### Lengths in bits -/

lemma bitLengthLoop_eq (magnitude length : ℕ) :
    bitLengthLoop magnitude length = length + magnitude.size := by
  fun_induction bitLengthLoop magnitude length with
  | case1 length => rw [Nat.size_zero, Nat.add_zero]
  | case2 magnitude length nonzero ih =>
    have halved : magnitude.size = (magnitude / 2).size + 1 := by
      conv_lhs => rw [← Nat.bit_bodd_div2 magnitude]
      rw [Nat.size_bit (by rwa [Nat.bit_bodd_div2]), Nat.div2_val]
    omega

/-- Large enough for what the solver forms, and small enough to be negated. -/
lemma returns_signedBitLength {value bound : ℤ} (within : |value| ≤ bound)
    (room : bound < 2 ^ 63) :
    Returns (signedBitLength value) fun length => length = value.natAbs.size + 1 := by
  have magnitude : Returns (magnitudeOf value) fun magnitude =>
      magnitude.toNat = value.natAbs := by
    unfold magnitudeOf
    split
    · exact (Signed.returns_neg within room).mono fun out ⟨is, _⟩ => by omega
    · exact .some (by omega)
  refine magnitude.bind fun out is => ?_
  rw [is, bitLengthLoop_eq, Nat.add_comm]
  exact .some rfl

lemma abs_le_pow_size (value : ℤ) : |value| ≤ 2 ^ value.natAbs.size := by
  have below := Nat.lt_size_self value.natAbs
  rw [Int.abs_eq_natAbs]
  exact_mod_cast below.le

lemma pow_size_le_abs {value : ℤ} (nonzero : value ≠ 0) :
    2 ^ (value.natAbs.size - 1) ≤ |value| := by
  have positive : 0 < value.natAbs.size := Nat.size_pos.mpr (Int.natAbs_pos.mpr nonzero)
  have above : 2 ^ (value.natAbs.size - 1) ≤ value.natAbs := Nat.lt_size.mp (by omega)
  rw [Int.abs_eq_natAbs]
  exact_mod_cast above

/-! ### The bounds of a step -/

lemma returns_productDifference {a b c d m : ℤ} (ha : |a| ≤ m) (hb : |b| ≤ m) (hc : |c| ≤ m)
    (hd : |d| ≤ m) (room : m * m + m * m < 2 ^ 63) :
    Returns (productDifference a b c d) fun out =>
      out = a * b - c * d ∧ |out| ≤ m * m + m * m := by
  have square : 0 ≤ m * m := mul_self_nonneg m
  refine (Signed.returns_mul (abs_mul_le ha hb) (by omega)).bind ?_
  rintro _ ⟨rfl, first⟩
  refine (Signed.returns_mul (abs_mul_le hc hd) (by omega)).bind ?_
  rintro _ ⟨rfl, second⟩
  exact Signed.returns_sub first second room

lemma returns_productSum {a b c d e f p : ℤ} (hab : |a * b| ≤ p) (hcd : |c * d| ≤ p)
    (hef : |e * f| ≤ p) (room : p + p + p < 2 ^ 63) :
    Returns (productSum a b c d e f) fun out =>
      out = a * b + c * d + e * f ∧ |out| ≤ p + p + p := by
  have nonneg : 0 ≤ p := (abs_nonneg _).trans hab
  refine (Signed.returns_mul hab (by omega)).bind ?_
  rintro _ ⟨rfl, first⟩
  refine (Signed.returns_mul hcd (by omega)).bind ?_
  rintro _ ⟨rfl, second⟩
  refine (Signed.returns_add first second (by omega)).bind ?_
  rintro _ ⟨rfl, both⟩
  refine (Signed.returns_mul hef (by omega)).bind ?_
  rintro _ ⟨rfl, third⟩
  exact Signed.returns_add both third room

/-- Scaled to 32 bits or not, a value is shifted by the surplus of bits. -/
lemma returns_scaledValue {value : ℤ} {length : ℕ} (short : length ≤ 64) :
    Returns (scaledValue value length) fun out => out = shiftRight value (length - 32) := by
  unfold scaledValue
  split
  · exact Signed.returns_shift (by omega)
  · have none : length - 32 = 0 := by omega
    rw [none]
    exact .some (Int.ediv_one value).symm

/-- An offset that is the sentinel or keeps the bound that the test of the bits implies. -/
def OffsetInRange (offset : ℤ) : Prop :=
  FitsIn 32 offset ∧ (offset = 0x00ffffff ∨ |offset| ≤ 2 ^ 21)

lemma offsetInRange_of_abs_le {offset : ℤ} (small : |offset| ≤ 2 ^ 21) : OffsetInRange offset :=
  ⟨fitsIn_of_abs_lt (small.trans_lt (by norm_num)), .inr small⟩

/-- The numerator has at most eight bits more than the determinant. The shift then leaves the
determinant its highest bit, and the numerator at most 2^9 times as large as it. -/
lemma scaled_ratio {numerator determinant : ℤ} (nonzero : determinant ≠ 0)
    (near : numerator.natAbs.size ≤ determinant.natAbs.size + 8) :
    let shift := max numerator.natAbs.size determinant.natAbs.size + 1 - 32
    |shiftRight numerator shift| ≤ 2 ^ 31 ∧ shiftRight determinant shift ≠ 0 ∧
      |shiftRight numerator shift| ≤ 2 ^ 9 * |shiftRight determinant shift| := by
  intro shift
  have positive : 0 < determinant.natAbs.size := Nat.size_pos.mpr (Int.natAbs_pos.mpr nonzero)
  have below := abs_le_pow_size numerator
  have kept : 2 ^ (determinant.natAbs.size - 1 - shift) ≤ |shiftRight determinant shift| :=
    Signed.le_abs_shiftRight (by omega) (pow_size_le_abs nonzero)
  have belowMost : |numerator| ≤ 2 ^ max numerator.natAbs.size determinant.natAbs.size :=
    below.trans (pow_le_pow_right₀ (by norm_num) (le_max_left _ _))
  have belowNear : |numerator| ≤ 2 ^ (determinant.natAbs.size + 8) :=
    below.trans (pow_le_pow_right₀ (by norm_num) near)
  refine ⟨?_, ?_, ?_⟩
  · exact (Signed.abs_shiftRight_le (by omega) belowMost).trans
      (pow_le_pow_right₀ (by norm_num) (by omega))
  · have one : (0 : ℤ) < 2 ^ (determinant.natAbs.size - 1 - shift) := by positivity
    exact abs_pos.mp (one.trans_le kept)
  · have exponent : determinant.natAbs.size + 8 - shift =
        9 + (determinant.natAbs.size - 1 - shift) := by omega
    calc |shiftRight numerator shift|
        ≤ 2 ^ (determinant.natAbs.size + 8 - shift) :=
          Signed.abs_shiftRight_le (by omega) belowNear
      _ = 2 ^ 9 * 2 ^ (determinant.natAbs.size - 1 - shift) := by rw [exponent, pow_add]
      _ ≤ 2 ^ 9 * |shiftRight determinant shift| := mul_le_mul_of_nonneg_left kept (by norm_num)

lemma size_le_of_abs_le {value : ℤ} {k : ℕ} (within : |value| < 2 ^ k) : value.natAbs.size ≤ k := by
  apply Nat.size_le.mpr
  rw [Int.abs_eq_natAbs] at within
  exact_mod_cast within

lemma returns_axisOffset {numerator determinant : ℤ} (nonzero : determinant ≠ 0)
    (small : |numerator| < 2 ^ 62) (smallToo : |determinant| < 2 ^ 62) :
    Returns (axisOffset numerator determinant (determinant.natAbs.size + 1)) OffsetInRange := by
  have sizes := size_le_of_abs_le small
  have sizesToo := size_le_of_abs_le smallToo
  refine (returns_signedBitLength small.le (by norm_num)).bind ?_
  rintro _ rfl
  split
  · exact .some ⟨by decide, .inl rfl⟩
  · rename_i near
    obtain ⟨scaled, divisor, ratio⟩ := @scaled_ratio numerator determinant nonzero (by omega)
    have same : max (numerator.natAbs.size + 1) (determinant.natAbs.size + 1) =
        max numerator.natAbs.size determinant.natAbs.size + 1 := by omega
    have short : max numerator.natAbs.size determinant.natAbs.size + 1 ≤ 64 := by omega
    dsimp only
    rw [same]
    refine (returns_scaledValue short).bind ?_
    rintro _ rfl
    refine (returns_scaledValue short).bind ?_
    rintro _ rfl
    refine (@Signed.returns_mul 64 _ 0x1000 _ (abs_mul_le scaled le_rfl) (by norm_num)).bind ?_
    rintro _ ⟨rfl, -⟩
    have wide : |shiftRight numerator (max numerator.natAbs.size determinant.natAbs.size + 1 - 32) *
        0x1000| ≤ 2 ^ 21 * |shiftRight determinant
          (max numerator.natAbs.size determinant.natAbs.size + 1 - 32)| := by
      rw [abs_mul]
      have power : |(0x1000 : ℤ)| = 0x1000 := rfl
      rw [power]
      linarith
    refine (@Signed.returns_divide 64 _ _ _ divisor wide (by norm_num)).bind ?_
    rintro _ ⟨rfl, bound⟩
    refine (@Signed.returns_fit 32 _ _ bound (by norm_num)).mono ?_
    rintro _ ⟨rfl, -⟩
    exact offsetInRange_of_abs_le bound

/-! ### The system -/

lemma abs_toInt_le (value : Int16) : |value.toInt| ≤ 2 ^ 15 := by
  have low := value.le_toInt
  have high := value.toInt_lt
  exact abs_le.mpr ⟨low, high.le⟩

lemma returns_cofactor {a b c d : ℤ} (ha : |a| ≤ 2 ^ 15) (hb : |b| ≤ 2 ^ 15) (hc : |c| ≤ 2 ^ 15)
    (hd : |d| ≤ 2 ^ 15) : Returns (productDifference a b c d) fun out => |out| ≤ 2 ^ 31 :=
  (returns_productDifference ha hb hc hd (by norm_num)).mono fun _ ⟨_, bound⟩ => bound

/-- The products of an entry and a cofactor. -/
lemma abs_product_le {a b : ℤ} (ha : |a| ≤ 2 ^ 15) (hb : |b| ≤ 2 ^ 31) : |a * b| ≤ 2 ^ 46 :=
  abs_mul_le ha hb

lemma abs_product_le' {a b : ℤ} (ha : |a| ≤ 2 ^ 31) (hb : |b| ≤ 2 ^ 15) : |a * b| ≤ 2 ^ 46 :=
  abs_mul_le ha hb

lemma returns_expansion {a b c d e f : ℤ} (hab : |a * b| ≤ 2 ^ 46) (hcd : |c * d| ≤ 2 ^ 46)
    (hef : |e * f| ≤ 2 ^ 46) : Returns (productSum a b c d e f) fun out => |out| < 2 ^ 62 :=
  (returns_productSum hab hcd hef (by norm_num)).mono fun _ ⟨_, bound⟩ =>
    bound.trans_lt (by norm_num)

lemma returns_negated {value : ℤ} (small : |value| < 2 ^ 62) :
    Returns (Signed.neg 64 value) fun out => |out| < 2 ^ 62 :=
  (Signed.returns_neg le_rfl (small.trans (by norm_num))).mono fun _ ⟨_, bound⟩ =>
    bound.trans_lt small

/-- Over every Hessian and gradient nothing overflows and no divisor is zero; every offset fits in
32 bits, and it is the sentinel or at most 2^21 away from zero. -/
theorem refinement_offset_safe (hessian : Hessian) (gradient : Gradient) :
    ∃ offset, solveRefinementOffset hessian gradient = some offset ∧
      ∀ value ∈ offset.toList, OffsetInRange value := by
  have h00 := abs_toInt_le hessian.h00
  have h11 := abs_toInt_le hessian.h11
  have h22 := abs_toInt_le hessian.h22
  have h01 := abs_toInt_le hessian.h01
  have h12 := abs_toInt_le hessian.h12
  have h02 := abs_toInt_le hessian.h02
  have g0 := abs_toInt_le gradient.g0
  have g1 := abs_toInt_le gradient.g1
  have g2 := abs_toInt_le gradient.g2
  change Returns (solveRefinementOffset hessian gradient) fun offset =>
    ∀ value ∈ offset.toList, OffsetInRange value
  -- the cofactors of the first row, and the determinant
  refine (returns_cofactor h11 h22 h12 h12).bind fun cofactor0 c0 => ?_
  refine (returns_cofactor h02 h12 h01 h22).bind fun cofactor1 c1 => ?_
  refine (returns_cofactor h01 h12 h02 h11).bind fun cofactor2 c2 => ?_
  refine (returns_expansion (abs_product_le h00 c0) (abs_product_le h01 c1)
    (abs_product_le h02 c2)).bind fun determinant bounded => ?_
  refine (returns_signedBitLength bounded.le (by norm_num)).bind ?_
  rintro _ rfl
  split
  · refine .some fun value mem => ?_
    have zero : value = 0 := by simpa using mem
    exact zero ▸ offsetInRange_of_abs_le (by norm_num)
  rename_i nonzero
  -- the three numerators; the last two take two more minors each
  refine (returns_expansion (abs_product_le g0 c0) (abs_product_le g1 c1)
    (abs_product_le g2 c2)).bind fun sum0 s0 => ?_
  refine (returns_negated s0).bind fun numerator0 n0 => ?_
  refine (returns_cofactor h00 h22 h02 h02).bind fun minor1 m1 => ?_
  refine (returns_cofactor h01 h02 h00 h12).bind fun mixed1 x1 => ?_
  refine (returns_expansion (abs_product_le' m1 g1) (abs_product_le' x1 g2)
    (abs_product_le g0 c1)).bind fun sum1 s1 => ?_
  refine (returns_negated s1).bind fun numerator1 n1 => ?_
  refine (returns_cofactor h00 h11 h01 h01).bind fun minor2 m2 => ?_
  refine (returns_cofactor h01 h02 h00 h12).bind fun mixed2 x2 => ?_
  refine (returns_expansion (abs_product_le' m2 g2) (abs_product_le' x2 g1)
    (abs_product_le g0 c2)).bind fun sum2 s2 => ?_
  refine (returns_negated s2).bind fun numerator2 n2 => ?_
  refine (returns_axisOffset nonzero n0 bounded).bind fun offset0 held0 => ?_
  refine (returns_axisOffset nonzero n1 bounded).bind fun offset1 held1 => ?_
  refine (returns_axisOffset nonzero n2 bounded).bind fun offset2 held2 => ?_
  refine .some fun value mem => ?_
  have listed : value = offset0 ∨ value = offset1 ∨ value = offset2 := by simpa using mem
  rcases listed with rfl | rfl | rfl
  · exact held0
  · exact held1
  · exact held2

end GoodixSpi.Chicago
