import GoodixSpi.Lib.DigitRoot
import GoodixSpi.Lib.Unsigned
import GoodixSpi.Chicago.Enrollment.Relation
import GoodixSpi.Chicago.Match.Geometry

/-! The three integer square roots, in arithmetic that fails where the unsigned type overflows. -/

namespace GoodixSpi.Chicago

open DigitRoot

/-- `while (bit > value) bit >>= 2`. -/
def skipBits (value bit : ℕ) : ℕ :=
  if bit > value then skipBits value (bit >>> 2) else bit
termination_by bit
decreasing_by
  rw [Nat.shiftRight_eq_div_pow]
  omega

/-- The loop of `enrollment_integer_square_root` and of `integer_square_root`, whose numbers have
32 and 64 bits. -/
def squareRootDigits (bits bit value result : ℕ) : Option ℕ :=
  if bit = 0 then some result
  else do
    let trial ← Unsigned.add bits result bit
    if value ≥ trial then do
      let value ← Unsigned.sub value trial
      let result ← Unsigned.add bits (result >>> 1) bit
      squareRootDigits bits (bit >>> 2) value result
    else squareRootDigits bits (bit >>> 2) value (result >>> 1)
termination_by bit
decreasing_by
  all_goals
    rw [Nat.shiftRight_eq_div_pow]
    omega

/-- `enrollment_integer_square_root`. -/
def enrollmentSquareRoot32 (value : ℕ) : Option ℕ :=
  squareRootDigits 32 (skipBits value (2 ^ 30)) value 0

/-- `integer_square_root`. -/
def integerSquareRoot64 (value : ℕ) : Option ℕ :=
  squareRootDigits 64 (skipBits value (2 ^ 62)) value 0

/-- The loop of `match_integer_sqrt`. -/
def matchSqrtDigits (bit remainder root : ℕ) (shift : ℤ) : Option ℕ :=
  if bit = 0 then some root
  else do
    let doubled ← Unsigned.mul 32 root 2
    let sum ← Unsigned.add 32 bit doubled
    let trial ← Unsigned.shiftLeft 32 sum shift.toNat
    if remainder ≥ trial then do
      let root ← Unsigned.add 32 root bit
      let remainder ← Unsigned.sub remainder trial
      matchSqrtDigits (bit >>> 1) remainder root (shift - 1)
    else matchSqrtDigits (bit >>> 1) remainder root (shift - 1)
termination_by bit
decreasing_by
  all_goals
    rw [Nat.shiftRight_eq_div_pow]
    omega

/-- `match_integer_sqrt`. -/
def matchSqrt32 (value : ℕ) : Option ℕ :=
  if value ≤ 1 then some value else matchSqrtDigits 0x8000 value 0 15

/-! ### The loop over pairs of bits -/

variable {n k p digits bits : ℕ}

lemma shift_four (k : ℕ) : 4 ^ (k + 1) >>> 2 = 4 ^ k := by
  rw [Nat.shiftRight_eq_div_pow, Nat.pow_succ]
  exact Nat.mul_div_cancel _ (by decide)

lemma half_result (p k : ℕ) : (p * 2 ^ (k + 1)) >>> 1 = p * 2 ^ k := by
  rw [Nat.shiftRight_eq_div_pow, Nat.pow_succ, ← Nat.mul_assoc]
  exact Nat.mul_div_cancel _ (by decide)

/-- Skipping ends at the highest pair that can count. -/
lemma skipBits_fits (fits : n < 4 ^ k) : ∃ j ≤ k, skipBits n (4 ^ k >>> 2) = 4 ^ j >>> 2 ∧
    n < 4 ^ j := by
  induction k with
  | zero =>
    refine ⟨0, le_rfl, ?_, fits⟩
    rw [skipBits, if_neg (by omega)]
  | succ k ih =>
    rw [skipBits, shift_four]
    split
    · rename_i below
      obtain ⟨j, small, skipped, inside⟩ := ih below
      exact ⟨j, small.trans (Nat.le_succ k), skipped, inside⟩
    · exact ⟨k + 1, le_rfl, (shift_four k).symm, fits⟩

/-- With `k` digits left the result is the part of the root that is known, doubled and shifted. -/
lemma squareRootDigits_eq (approaches : Approaches n k p) (fits : n < 4 ^ digits)
    (inside : k ≤ digits) (room : 4 ^ digits ≤ 2 ^ bits) :
    ∃ root, squareRootDigits bits (4 ^ k >>> 2) (n - p * p) (p * 2 ^ k) = some root ∧
      IsRoot n root := by
  induction k generalizing p with
  | zero =>
    refine ⟨p, ?_, approaches.isRoot⟩
    rw [squareRootDigits, if_pos (by decide), Nat.pow_zero, Nat.mul_one]
  | succ k ih =>
    have trial := (approaches.trial_lt fits inside).trans_le room
    have positive : ¬4 ^ k = 0 := (Nat.pow_pos (by decide)).ne'
    rw [shift_four, squareRootDigits, if_neg positive, Unsigned.add_eq trial]
    simp only [Option.bind_eq_bind, Option.bind_some]
    split
    · rename_i enough
      have half : p * 2 ^ k ≤ p * 2 ^ (k + 1) :=
        Nat.mul_le_mul_left p (Nat.pow_le_pow_right (by decide) (Nat.le_succ k))
      rw [Unsigned.sub_eq enough, half_result, Option.bind_some, Unsigned.add_eq (by omega),
        Option.bind_some, shifted_digit, rest_digit]
      exact ih (approaches.accept enough) (by omega)
    · rename_i less
      rw [half_result]
      exact ih (approaches.reject (by omega)) (by omega)

lemma squareRootLoop_exact (fits : n < 4 ^ digits) (room : 4 ^ digits ≤ 2 ^ bits) :
    ∃ root, squareRootDigits bits (skipBits n (4 ^ digits >>> 2)) n 0 = some root ∧
      IsRoot n root := by
  obtain ⟨k, small, skipped, inside⟩ := skipBits_fits fits
  have run := squareRootDigits_eq (approaches_zero inside) fits small room
  rw [Nat.zero_mul, Nat.zero_mul, Nat.sub_zero] at run
  rwa [skipped]

/-! ### The restoring loop -/

lemma matchSqrtDigits_eq (approaches : Approaches n k p) (fits : n < 4 ^ 16) (inside : k ≤ 16) :
    ∃ root, matchSqrtDigits (2 ^ k >>> 1) (n - p * p) p (k - 1) = some root ∧
      IsRoot n root := by
  induction k generalizing p with
  | zero =>
    refine ⟨p, ?_, approaches.isRoot⟩
    rw [matchSqrtDigits, if_pos (by decide)]
  | succ k ih =>
    have bit : 2 ^ (k + 1) >>> 1 = 2 ^ k := by
      rw [Nat.shiftRight_eq_div_pow, Nat.pow_succ]
      exact Nat.mul_div_cancel _ (by decide)
    have bound : (4 : ℕ) ^ 16 = 2 ^ 32 := by decide
    have trial : (2 ^ k + p * 2) * 2 ^ k < 2 ^ 32 := by
      rw [doubled_digit, ← bound]
      exact approaches.trial_lt fits inside
    have positive : 0 < 2 ^ k := Nat.pow_pos (by decide)
    have sum : 2 ^ k + p * 2 < 2 ^ 32 :=
      (Nat.le_mul_of_pos_right _ positive).trans_lt trial
    have shift : (((k + 1 : ℕ) : ℤ) - 1).toNat = k := by omega
    have next : (((k + 1 : ℕ) : ℤ) - 1) - 1 = (k : ℤ) - 1 := by omega
    rw [bit, matchSqrtDigits, if_neg positive.ne', Unsigned.mul_eq (by omega), shift, next]
    simp only [Option.bind_eq_bind, Option.bind_some]
    rw [Unsigned.add_eq sum, Option.bind_some, Unsigned.shiftLeft_eq trial, Option.bind_some,
      doubled_digit]
    split
    · rename_i enough
      rw [Unsigned.add_eq (by omega), Option.bind_some, Unsigned.sub_eq enough, Option.bind_some,
        rest_digit]
      exact ih (approaches.accept enough) (by omega)
    · exact ih (approaches.reject (by omega)) (by omega)

lemma isRoot_small {value : ℕ} (small : value ≤ 1) : IsRoot value value where
  square := by nlinarith
  largest s square := by nlinarith

lemma matchSqrt32_exact {value : ℕ} (fits : value < 2 ^ 32) :
    ∃ root, matchSqrt32 value = some root ∧ IsRoot value root := by
  rw [matchSqrt32]
  split
  · rename_i small
    exact ⟨value, rfl, isRoot_small small⟩
  · have fits' : value < 4 ^ 16 := fits
    exact matchSqrtDigits_eq (approaches_zero fits') fits' le_rfl

/-! ### The square roots of the matcher and of the enrollment -/

lemma matchIntegerSqrtStep_digit {state : UInt32 × UInt32} (approaches : Approaches n (k + 1) p)
    (fits : n < 4 ^ 16) (inside : k < 16) (remainder : state.1.toNat = n - p * p)
    (root : state.2.toNat = p) :
    ∃ q, Approaches n k q ∧ (matchIntegerSqrtStep state k).1.toNat = n - q * q ∧
      (matchIntegerSqrtStep state k).2.toNat = q := by
  have trial := approaches.trial_lt fits inside
  have room := approaches.room fits inside
  have bound : (4 : ℕ) ^ 16 = 2 ^ 32 := by decide
  have amount : (UInt32.ofNat k).toNat % 32 = k := by
    rw [UInt32.toNat_ofNat']
    omega
  have power : 2 ^ k < 2 ^ 16 := Nat.pow_lt_pow_right (by decide) inside
  have bit : ((1 : UInt32) <<< UInt32.ofNat k).toNat = 2 ^ k := by
    rw [UInt32.toNat_shiftLeft, amount, Nat.shiftLeft_eq]
    change 1 * 2 ^ k % 2 ^ 32 = 2 ^ k
    omega
  have sum : ((1 : UInt32) <<< UInt32.ofNat k + state.2 * 2).toNat = 2 ^ k + p * 2 := by
    rw [UInt32.toNat_add, UInt32.toNat_mul, bit, root]
    change (2 ^ k + p * 2 % 2 ^ 32) % 2 ^ 32 = _
    omega
  have shifted : (((1 : UInt32) <<< UInt32.ofNat k + state.2 * 2) <<< UInt32.ofNat k).toNat =
      p * 2 ^ (k + 1) + 4 ^ k := by
    rw [UInt32.toNat_shiftLeft, amount, Nat.shiftLeft_eq, sum, doubled_digit]
    exact Nat.mod_eq_of_lt (bound ▸ trial)
  unfold matchIntegerSqrtStep
  dsimp only
  split
  · rename_i enough
    have fits := UInt32.le_iff_toNat_le.mp enough
    rw [shifted, remainder] at fits
    refine ⟨p + 2 ^ k, approaches.accept fits, ?_, ?_⟩
    · rw [UInt32.toNat_sub_of_le _ _ enough, shifted, remainder, rest_digit]
    · rw [UInt32.toNat_add, bit, root]
      omega
  · rename_i less
    have exceeds := UInt32.lt_iff_toNat_lt.mp (UInt32.not_le.mp less)
    rw [shifted, remainder] at exceeds
    exact ⟨p, approaches.reject exceeds, remainder, root⟩

lemma foldl_matchIntegerSqrtStep {state : UInt32 × UInt32} (approaches : Approaches n k p)
    (fits : n < 4 ^ 16) (inside : k ≤ 16) (remainder : state.1.toNat = n - p * p)
    (root : state.2.toNat = p) :
    IsRoot n ((List.range k).reverse.foldl matchIntegerSqrtStep state).2.toNat := by
  induction k generalizing p state with
  | zero => exact root ▸ approaches.isRoot
  | succ k ih =>
    obtain ⟨q, next, remainder, root⟩ :=
      matchIntegerSqrtStep_digit approaches fits inside remainder root
    rw [List.range_succ, List.reverse_append]
    exact ih next (by omega) remainder root

lemma matchIntegerSqrt_isRoot (value : UInt32) :
    IsRoot value.toNat (matchIntegerSqrt value).toNat := by
  rw [matchIntegerSqrt]
  split
  · rename_i small
    exact isRoot_small (UInt32.le_iff_toNat_le.mp small)
  · exact foldl_matchIntegerSqrtStep (approaches_zero value.toNat_lt) value.toNat_lt le_rfl rfl rfl

lemma foldl_squareRootStep (approaches : Approaches n k p) :
    IsRoot n (((List.range k).reverse.map (4 ^ ·)).foldl squareRootStep
      (n - p * p, p * 2 ^ k)).2 := by
  induction k generalizing p with
  | zero =>
    rw [Nat.pow_zero, Nat.mul_one]
    exact approaches.isRoot
  | succ k ih =>
    have halved : p * 2 ^ (k + 1) / 2 = p * 2 ^ k := half_result p k
    rw [List.range_succ, List.reverse_append, List.map_append, List.foldl_append]
    change IsRoot n (List.foldl squareRootStep
      (squareRootStep (n - p * p, p * 2 ^ (k + 1)) (4 ^ k)) _).2
    unfold squareRootStep
    dsimp only
    split
    · rename_i enough
      rw [halved, shifted_digit, rest_digit]
      exact ih (approaches.accept enough)
    · rw [halved]
      exact ih (approaches.reject (by omega))

/-- Pairs of bits above the argument leave the state as it is. -/
lemma foldl_filter_squareRootStep (n k : ℕ) :
    (((List.range k).reverse.map (4 ^ ·)).filter (· ≤ n)).foldl squareRootStep (n, 0) =
      ((List.range k).reverse.map (4 ^ ·)).foldl squareRootStep (n, 0) := by
  induction k with
  | zero => rfl
  | succ k ih =>
    rw [List.range_succ, List.reverse_append, List.map_append]
    change (List.filter _ (4 ^ k :: (List.range k).reverse.map (4 ^ ·))).foldl _ _ =
      List.foldl _ (squareRootStep (n, 0) (4 ^ k)) _
    by_cases below : 4 ^ k ≤ n
    · have all : ∀ bit ∈ 4 ^ k :: (List.range k).reverse.map (4 ^ ·), decide (bit ≤ n) = true := by
        intro bit mem
        rcases List.mem_cons.mp mem with rfl | listed
        · exact decide_eq_true below
        · obtain ⟨j, inside, rfl⟩ := List.mem_map.mp listed
          have smaller : j ≤ k := (List.mem_range.mp (List.mem_reverse.mp inside)).le
          exact decide_eq_true ((Nat.pow_le_pow_right (by decide) smaller).trans below)
      rw [List.filter_eq_self.mpr all]
      rfl
    · have kept : squareRootStep (n, 0) (4 ^ k) = (n, 0) := by
        rw [squareRootStep, if_neg (by omega), Nat.zero_div]
      rw [kept, List.filter_cons_of_neg (by simpa using below)]
      exact ih

lemma enrollmentIntegerSquareRoot_isRoot {value : ℕ} (fits : value < 2 ^ 32) :
    IsRoot value (enrollmentIntegerSquareRoot value) := by
  have powers : ((List.range 16).map fun k => 4 ^ (15 - k)) =
      (List.range 16).reverse.map (4 ^ ·) := by decide
  have start := @foldl_squareRootStep value 16 0 (approaches_zero fits)
  rw [Nat.zero_mul, Nat.zero_mul, Nat.sub_zero] at start
  rw [enrollmentIntegerSquareRoot, powers, foldl_filter_squareRootStep]
  exact start

/-- For every argument of their type the three loops end without an overflow, in the largest number
whose square is not above it; so both 32-bit roots agree. -/
theorem integer_square_roots_exact :
    (∀ value : UInt32, matchSqrt32 value.toNat = some (matchIntegerSqrt value).toNat ∧
      enrollmentSquareRoot32 value.toNat = some (enrollmentIntegerSquareRoot value.toNat) ∧
      IsRoot value.toNat (matchIntegerSqrt value).toNat ∧
      enrollmentIntegerSquareRoot value.toNat = (matchIntegerSqrt value).toNat) ∧
    ∀ value : UInt64, ∃ root, integerSquareRoot64 value.toNat = some root ∧
      IsRoot value.toNat root := by
  constructor
  · intro value
    have matched := matchIntegerSqrt_isRoot value
    have enrolled := enrollmentIntegerSquareRoot_isRoot value.toNat_lt
    obtain ⟨first, run, root⟩ := matchSqrt32_exact value.toNat_lt
    obtain ⟨second, loop, other⟩ := @squareRootLoop_exact value.toNat 16 32 value.toNat_lt le_rfl
    refine ⟨?_, ?_, matched, enrolled.unique matched⟩
    · rw [run, root.unique matched]
    · rw [← other.unique enrolled]
      exact loop
  · intro value
    exact @squareRootLoop_exact value.toNat 32 64 value.toNat_lt le_rfl

end GoodixSpi.Chicago
