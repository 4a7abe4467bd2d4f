import GoodixSpi.Lib.CArithmetic
import GoodixSpi.Lib.Reinterpret
import Mathlib.Algebra.Order.BigOperators.Group.List
import Mathlib.Data.List.GetD
import Mathlib.Tactic.Ring
import Mathlib.Tactic.Linarith

/-! The thirteen CORDIC rotations that turn a gradient into a length and a direction. The registers
grow by less than a factor of three and the direction stays within the sum of the table. -/

namespace GoodixSpi.Chicago

open CArithmetic Reinterpret

def cordicAngles : List ℕ :=
  [0x0c91, 0x076b, 0x03eb, 0x01fd, 0x0100, 0x0080, 0x0040, 0x0020, 0x0010, 0x0008, 0x0004, 0x0002,
   0x0001]

def cordicGains : List ℤ :=
  [0xb505, 0xa1e9, 0x9d13, 0x9bdd, 0x9b8f, 0x9b7b, 0x9b77, 0x9b75, 0x9b75, 0x9b75, 0x9b75, 0x9b75,
   0x9b75]

structure CordicRegisters where
  x : ℤ
  y : ℤ
  angle : UInt16

/-- One pass of the loop, up to its last test. -/
def cordicRotate (iteration : ℕ) (registers : CordicRegisters) : CordicRegisters :=
  let yShift := shiftRight registers.y iteration
  let xShift := shiftRight registers.x iteration
  let turn := (cordicAngles.getD iteration 0).toUInt16
  if registers.y > 0 then
    ⟨registers.x + yShift, registers.y - xShift, registers.angle + turn⟩
  else ⟨registers.x - yShift, registers.y + xShift, registers.angle - turn⟩

/-- The loop from `iteration` on, with so many passes left; it also gives `stop`. -/
def cordicLoop : ℕ → ℕ → CordicRegisters → CordicRegisters × ℕ
  | 0, _, registers => (registers, 12)
  | rounds + 1, iteration, registers =>
    let rotated := cordicRotate iteration registers
    if rotated.y = 0 then (rotated, iteration) else cordicLoop rounds (iteration + 1) rotated

/-- `cordic_magnitude_orientation`: the angle, and what `*horizontal` is left with. -/
def cordicMagnitudeOrientation (vertical horizontal : ℤ) : UInt16 × ℤ :=
  let x := if horizontal > 0 then horizontal else -horizontal
  let y := if vertical > 0 then vertical else -vertical
  if y = 0 then (if horizontal > 0 then 0 else 0x3244, x)
  else if x = 0 then (if vertical > 0 then 0x1922 else 0xe6de, y)
  else
    let (registers, stop) := cordicLoop 13 0 ⟨x, y, 0⟩
    let angle :=
      if horizontal > 0 then if vertical < 0 then -registers.angle else registers.angle
      else if vertical > 0 then 0x3244 - registers.angle
      else registers.angle + 0xcdbc
    (angle, shiftRight (cordicGains.getD stop 0 * registers.x + 0x8000) 16)

/-! ### The registers -/

/-- The registers after so many passes from `iteration` on. -/
def cordicRun : ℕ → ℕ → CordicRegisters → CordicRegisters
  | 0, _, registers => registers
  | rounds + 1, iteration, registers =>
    cordicRun rounds (iteration + 1) (cordicRotate iteration registers)

/-- The loop ends after some of the passes. -/
lemma cordicLoop_eq_run (rounds iteration : ℕ) (registers : CordicRegisters) :
    ∃ passes ≤ rounds, (cordicLoop rounds iteration registers).1 =
      cordicRun passes iteration registers := by
  induction rounds generalizing iteration registers with
  | zero => exact ⟨0, le_rfl, rfl⟩
  | succ rounds ih =>
    rw [cordicLoop]
    split
    · exact ⟨1, Nat.le_add_left 1 rounds, rfl⟩
    · obtain ⟨passes, few, same⟩ := ih (iteration + 1) (cordicRotate iteration registers)
      exact ⟨passes + 1, Nat.succ_le_succ few, same⟩

lemma cordicRun_succ (rounds iteration : ℕ) (registers : CordicRegisters) :
    cordicRun (rounds + 1) iteration registers =
      cordicRotate (iteration + rounds) (cordicRun rounds iteration registers) := by
  induction rounds generalizing iteration registers with
  | zero => rfl
  | succ rounds ih =>
    rw [cordicRun, ih, cordicRun, Nat.add_right_comm, Nat.add_assoc]

/-- Before pass `pass`, which is not one of the first two, from registers up to `b`. -/
structure CordicBounded (b : ℤ) (pass : ℕ) (registers : CordicRegisters) : Prop where
  positive : 0 < registers.x
  grown : 5 * (registers.x * 4 ^ pass) ≤ (12 * 4 ^ pass - 32) * b + 10 * pass * 4 ^ pass
  above : registers.y * 2 ^ pass ≤ 2 * registers.x + pass * 2 ^ pass
  below : -registers.y * 2 ^ pass ≤ 2 * registers.x + pass * 2 ^ pass

/-- Multiplied by the power of two, a shift loses less than one power. -/
lemma shiftRight_bounds (value : ℤ) (bits : ℕ) :
    shiftRight value bits * 2 ^ bits ≤ value ∧
      value < shiftRight value bits * 2 ^ bits + 2 ^ bits := by
  have positive : (0 : ℤ) < 2 ^ bits := by positivity
  exact ⟨Int.ediv_mul_le value positive.ne', by
    have := Int.lt_ediv_add_one_mul_self value positive
    unfold shiftRight
    linarith⟩

/-- The sign of `y` decides the way. -/
lemma cordicRotate_cases (pass : ℕ) (registers : CordicRegisters) :
    (0 < registers.y ∧
        (cordicRotate pass registers).x = registers.x + shiftRight registers.y pass ∧
        (cordicRotate pass registers).y = registers.y - shiftRight registers.x pass ∧
        (cordicRotate pass registers).angle =
          registers.angle + (cordicAngles.getD pass 0).toUInt16) ∨
      (registers.y ≤ 0 ∧
        (cordicRotate pass registers).x = registers.x - shiftRight registers.y pass ∧
        (cordicRotate pass registers).y = registers.y + shiftRight registers.x pass ∧
        (cordicRotate pass registers).angle =
          registers.angle - (cordicAngles.getD pass 0).toUInt16) := by
  unfold cordicRotate
  dsimp only
  split
  · next up => exact .inl ⟨up, rfl, rfl, rfl⟩
  · next down => exact .inr ⟨not_lt.mp down, rfl, rfl, rfl⟩

/-- The first two passes. -/
lemma CordicBounded.start {b : ℤ} {registers : CordicRegisters} (x_pos : 0 < registers.x)
    (y_pos : 0 < registers.y) (x_le : registers.x ≤ b) (y_le : registers.y ≤ b) :
    CordicBounded b 2 (cordicRun 2 0 registers) := by
  rw [cordicRun, cordicRun, cordicRun]
  obtain ⟨-, x₁, y₁, -⟩ | ⟨down, -⟩ := cordicRotate_cases 0 registers
  · generalize cordicRotate 0 registers = first at *
    simp only [shiftRight, pow_zero, Int.ediv_one] at x₁ y₁
    obtain ⟨up, x₂, y₂, -⟩ | ⟨down, x₂, y₂, -⟩ := cordicRotate_cases (0 + 1) first <;>
      simp only [shiftRight, zero_add, pow_one] at x₂ y₂ <;>
      constructor <;> push_cast <;> omega
  · omega

lemma two_pow_eq_sq (pass : ℕ) : (4 : ℤ) ^ pass = 2 ^ pass * 2 ^ pass := by
  rw [← mul_pow]
  norm_num

lemma CordicBounded.le {b : ℤ} {pass : ℕ} {registers : CordicRegisters} (b_pos : 0 < b)
    (bounded : CordicBounded b pass registers) : 5 * registers.x ≤ 12 * b + 10 * pass := by
  have positive : (0 : ℤ) < 4 ^ pass := by positivity
  have scaled : 5 * registers.x * 4 ^ pass ≤ (12 * b + 10 * pass) * 4 ^ pass := by
    have grown := bounded.grown
    nlinarith
  exact le_of_mul_le_mul_right scaled positive

lemma CordicBounded.rotate {b : ℤ} {pass : ℕ} {registers : CordicRegisters} (b_pos : 0 < b)
    (late : 2 ≤ pass) (bounded : CordicBounded b pass registers) :
    CordicBounded b (pass + 1) (cordicRotate pass registers) := by
  obtain ⟨x, y, angle⟩ := registers
  have small := bounded.le b_pos
  obtain ⟨positive, grown, above, below⟩ := bounded
  dsimp only at positive grown above below small
  obtain ⟨yLow, yHigh⟩ := shiftRight_bounds y pass
  obtain ⟨xLow, xHigh⟩ := shiftRight_bounds x pass
  -- all bounds are linear in the products with the power of two
  have four : (4 : ℤ) ≤ 2 ^ pass := by
    calc (4 : ℤ) = 2 ^ 2 := by norm_num
      _ ≤ 2 ^ pass := pow_le_pow_right₀ (by norm_num) late
  have twice : 2 * (pass : ℤ) ≤ 2 ^ pass := by
    obtain ⟨before, rfl⟩ := Nat.exists_eq_add_of_le late
    have small := (1 + before).lt_two_pow_self
    rw [show 2 + before = 1 + before + 1 by omega, pow_succ]
    exact_mod_cast by omega
  have square := two_pow_eq_sq pass
  rw [square] at grown
  have next : (2 : ℤ) ^ (pass + 1) = 2 * 2 ^ pass := by rw [pow_succ, mul_comm]
  have nextSquare : (4 : ℤ) ^ (pass + 1) = 4 * (2 ^ pass * 2 ^ pass) := by
    rw [pow_succ, square, mul_comm]
  generalize (2 : ℤ) ^ pass = power at *
  have room : 4 * pass + pass * power ≤ power * power := by nlinarith
  have counted : (0 : ℤ) ≤ pass := Int.natCast_nonneg pass
  have power_pos : 0 < power := by omega
  have square_pos := mul_pos power_pos power_pos
  have passes := mul_nonneg counted power_pos.le
  obtain ⟨up, x', y', -⟩ | ⟨down, x', y', -⟩ := cordicRotate_cases pass ⟨x, y, angle⟩
  · dsimp only at up x' y'
    have forward : 0 ≤ shiftRight y pass := Int.ediv_nonneg up.le (by positivity)
    have scaled := mul_le_mul_of_nonneg_right yLow power_pos.le
    have upward := mul_pos up power_pos
    refine ⟨?_, ?_, ?_, ?_⟩
    · rw [x']
      omega
    · rw [x', nextSquare]
      push_cast
      linarith
    · rw [x', y', next]
      push_cast
      linarith
    · rw [x', y', next]
      push_cast
      linarith
  · dsimp only at down x' y'
    have backward : shiftRight y pass ≤ 0 := Int.ediv_nonpos_of_nonpos_of_neg down (by positivity)
    have scaled := mul_le_mul_of_nonneg_right yHigh.le power_pos.le
    have downward := mul_nonpos_of_nonpos_of_nonneg down power_pos.le
    refine ⟨?_, ?_, ?_, ?_⟩
    · rw [x']
      omega
    · rw [x', nextSquare]
      push_cast
      linarith
    · rw [x', y', next]
      push_cast
      linarith
    · rw [x', y', next]
      push_cast
      linarith

/-- No register ever exceeds 12/5 of what it starts with, by more than two for each pass. -/
theorem cordicRun_bounded {b : ℤ} {registers : CordicRegisters} (x_pos : 0 < registers.x)
    (y_pos : 0 < registers.y) (x_le : registers.x ≤ b) (y_le : registers.y ≤ b) (passes : ℕ) :
    0 < (cordicRun passes 0 registers).x ∧
      5 * (cordicRun passes 0 registers).x ≤ 12 * b + 10 * passes ∧
      5 * |(cordicRun passes 0 registers).y| ≤ 12 * b + 10 * passes := by
  have b_pos : 0 < b := x_pos.trans_le x_le
  rcases Nat.lt_or_ge passes 2 with early | late
  · have first : passes = 0 ∨ passes = 1 := by omega
    rcases first with rfl | rfl
    · rw [cordicRun, abs_of_pos y_pos]
      push_cast
      omega
    · rw [cordicRun, cordicRun]
      obtain ⟨-, x₁, y₁, -⟩ | ⟨down, -⟩ := cordicRotate_cases 0 registers
      · simp only [shiftRight, pow_zero, Int.ediv_one] at x₁ y₁
        have short : |(cordicRotate 0 registers).y| ≤ b := abs_le.mpr ⟨by omega, by omega⟩
        push_cast
        omega
      · omega
  · have bounded : CordicBounded b passes (cordicRun passes 0 registers) := by
      induction passes, late using Nat.le_induction with
      | base => exact .start x_pos y_pos x_le y_le
      | succ passes late ih =>
        rw [cordicRun_succ, Nat.zero_add]
        exact ih.rotate b_pos late
    have small := bounded.le b_pos
    refine ⟨bounded.positive, small, ?_⟩
    have four : (4 : ℤ) ≤ 2 ^ passes := by
      calc (4 : ℤ) = 2 ^ 2 := by norm_num
        _ ≤ 2 ^ passes := pow_le_pow_right₀ (by norm_num) late
    have above := bounded.above
    have below := bounded.below
    have positive := bounded.positive
    generalize (cordicRun passes 0 registers).x = x at *
    generalize (cordicRun passes 0 registers).y = y at *
    generalize (2 : ℤ) ^ passes = power at *
    have half : |y| ≤ x / 2 + passes := by
      rw [abs_le]
      constructor
      · by_contra outside
        have far : 0 < -y - passes := by omega
        have := mul_le_mul_of_nonneg_left four far.le
        linarith [show 2 * x < (-y - passes) * 4 by omega]
      · by_contra outside
        have far : 0 < y - passes := by omega
        have := mul_le_mul_of_nonneg_left four far.le
        linarith [show 2 * x < (y - passes) * 4 by omega]
    omega

/-! ### The direction -/

/-- The angle is the start and every entry of the table passed so far, each with a sign. -/
lemma cordicRun_angle (passes iteration : ℕ) (registers : CordicRegisters) {start : ℤ}
    (from_start : registers.angle = UInt16.ofInt start) :
    ∃ angle, (cordicRun passes iteration registers).angle = UInt16.ofInt angle ∧
      |angle - start| ≤ ((cordicAngles.drop iteration).take passes).sum := by
  induction passes generalizing iteration registers start with
  | zero => exact ⟨start, from_start, by simp⟩
  | succ passes ih =>
    have table : (cordicAngles.getD iteration 0 : ℤ) +
        (((cordicAngles.drop (iteration + 1)).take passes).sum : ℕ) =
          (((cordicAngles.drop iteration).take (passes + 1)).sum : ℕ) := by
      rcases Nat.lt_or_ge iteration cordicAngles.length with inside | outside
      · rw [List.drop_eq_getElem_cons inside, List.take_succ_cons, List.sum_cons,
          List.getD_eq_getElem _ _ inside]
        push_cast
        rfl
      · rw [List.drop_eq_nil_of_le outside, List.drop_eq_nil_of_le (by omega),
          List.getD_eq_default _ _ outside]
        simp
    have turned : ∃ next, (cordicRotate iteration registers).angle = UInt16.ofInt next ∧
        |next - start| ≤ cordicAngles.getD iteration 0 := by
      obtain ⟨-, -, -, angle⟩ | ⟨-, -, -, angle⟩ := cordicRotate_cases iteration registers
      · exact ⟨start + cordicAngles.getD iteration 0,
          by rw [angle, from_start, UInt16.ofInt_add, ofInt_natCast16], by simp⟩
      · exact ⟨start - cordicAngles.getD iteration 0,
          by rw [angle, from_start, sub_eq_add_neg, sub_eq_add_neg, UInt16.ofInt_add,
            UInt16.ofInt_neg, ofInt_natCast16], by simp⟩
    obtain ⟨next, here, near⟩ := turned
    obtain ⟨angle, last, within⟩ := ih (iteration + 1) _ here
    refine ⟨angle, last, ?_⟩
    have through := abs_sub_le angle next start
    omega

/-- The directions that the rotations can end with. -/
def directionLimit : ℤ := 13573

/-- The first pass always turns the same way, so the loop stays within the rest of the table. -/
lemma cordicLoop_angle {registers : CordicRegisters} (up : 0 < registers.y)
    (zero : registers.angle = 0) : ∃ angle : ℤ, -705 ≤ angle ∧ angle ≤ 7139 ∧
      (cordicLoop 13 0 registers).1.angle = UInt16.ofInt angle := by
  obtain ⟨passes, few, same⟩ := cordicLoop_eq_run 13 0 registers
  rw [same]
  cases passes with
  | zero => exact ⟨0, by norm_num, by norm_num, zero⟩
  | succ passes =>
    have first : (cordicRotate 0 registers).angle = UInt16.ofInt 3217 := by
      obtain ⟨-, -, -, angle⟩ | ⟨down, -⟩ := cordicRotate_cases 0 registers
      · rw [angle, zero]
        rfl
      · omega
    obtain ⟨angle, last, within⟩ := cordicRun_angle passes (0 + 1) _ first
    have rest : ((cordicAngles.drop (0 + 1)).take passes).sum ≤ 3922 := by
      exact ((List.take_sublist _ _).sum_le_sum fun _ _ => Nat.zero_le _).trans (by decide)
    refine ⟨angle, ?_, ?_, last⟩ <;> rw [abs_le] at within <;> omega

/-- Every direction, read as a signed value, is within the limit, whatever the gradient. -/
theorem cordic_direction (vertical horizontal : ℤ) :
    -directionLimit ≤ (cordicMagnitudeOrientation vertical horizontal).1.toInt16.toInt ∧
      (cordicMagnitudeOrientation vertical horizontal).1.toInt16.toInt ≤ directionLimit := by
  unfold cordicMagnitudeOrientation directionLimit
  generalize x_eq : (if horizontal > 0 then horizontal else -horizontal) = x
  generalize y_eq : (if vertical > 0 then vertical else -vertical) = y
  dsimp only
  by_cases flat : y = 0
  · rw [if_pos flat]
    dsimp only
    split <;> decide
  rw [if_neg flat]
  by_cases steep : x = 0
  · rw [if_pos steep]
    dsimp only
    split <;> decide
  rw [if_neg steep]
  obtain ⟨angle, low, high, last⟩ := @cordicLoop_angle ⟨x, y, 0⟩ (by dsimp only; omega) rfl
  dsimp only
  rw [last]
  split
  · split
    · rw [← UInt16.ofInt_neg, toInt_toInt16_ofInt] <;> omega
    · rw [toInt_toInt16_ofInt] <;> omega
  · split
    · have turned : 0x3244 - UInt16.ofInt angle = UInt16.ofInt (0x3244 - angle) := by
        rw [sub_eq_add_neg 0x3244 angle, UInt16.ofInt_add, UInt16.ofInt_neg, ← sub_eq_add_neg]
        rfl
      rw [turned, toInt_toInt16_ofInt] <;> omega
    · have turned : UInt16.ofInt angle + 0xcdbc = UInt16.ofInt (angle - 0x3244) := by
        rw [sub_eq_add_neg, UInt16.ofInt_add]
        rfl
      rw [turned, toInt_toInt16_ofInt] <;> omega

lemma cordicGains_range (stop : ℕ) :
    0 ≤ cordicGains.getD stop 0 ∧ cordicGains.getD stop 0 ≤ 0xb505 := by
  rcases Nat.lt_or_ge stop cordicGains.length with inside | outside
  · have all : ∀ gain ∈ cordicGains, 0 ≤ gain ∧ gain ≤ 0xb505 := by decide
    rw [List.getD_eq_getElem _ _ inside]
    exact all _ (List.getElem_mem inside)
  · rw [List.getD_eq_default _ _ outside]
    decide

/-- The length is at most 12/5 of the longer of the two components, but for the roundings. -/
theorem cordic_magnitude {vertical horizontal b : ℤ} (vertical_le : |vertical| ≤ b)
    (horizontal_le : |horizontal| ≤ b) :
    0 ≤ (cordicMagnitudeOrientation vertical horizontal).2 ∧
      5 * (cordicMagnitudeOrientation vertical horizontal).2 ≤ 12 * b + 135 := by
  rw [abs_le] at vertical_le horizontal_le
  unfold cordicMagnitudeOrientation
  generalize x_eq : (if horizontal > 0 then horizontal else -horizontal) = x
  generalize y_eq : (if vertical > 0 then vertical else -vertical) = y
  dsimp only
  by_cases flat : y = 0
  · rw [if_pos flat]
    dsimp only
    omega
  rw [if_neg flat]
  by_cases steep : x = 0
  · rw [if_pos steep]
    dsimp only
    omega
  rw [if_neg steep]
  dsimp only
  obtain ⟨passes, few, same⟩ := cordicLoop_eq_run 13 0 ⟨x, y, 0⟩
  obtain ⟨positive, grown, -⟩ := @cordicRun_bounded b ⟨x, y, 0⟩ (by dsimp only; omega)
    (by dsimp only; omega) (by dsimp only; omega) (by dsimp only; omega) passes
  rw [← same] at positive grown
  obtain ⟨gain_pos, gain_le⟩ := cordicGains_range (cordicLoop 13 0 ⟨x, y, 0⟩).2
  have counted : (passes : ℤ) ≤ 13 := by exact_mod_cast few
  generalize (cordicLoop 13 0 ⟨x, y, 0⟩).1.x = length at *
  have scaled : cordicGains.getD (cordicLoop 13 0 ⟨x, y, 0⟩).2 0 * length ≤ 0xb505 * length :=
    mul_le_mul_of_nonneg_right gain_le positive.le
  have nonneg := mul_nonneg gain_pos positive.le
  unfold shiftRight
  omega

end GoodixSpi.Chicago
