import GoodixSpi.Lib.CubeMoments
import GoodixSpi.Chicago.Match.Geometry
import Mathlib.Algebra.BigOperators.Fin
import Mathlib.Data.Rat.Cast.Order
import Mathlib.Tactic.FieldSimp
import Mathlib.Tactic.NormNum

/-! The rounded sums of the refinement as multiples of means over the unit cube, and the terms of
its numerators as multiples of theirs. -/

namespace GoodixSpi.Chicago

open CArithmetic Finset
open scoped BigOperators

section Moments

variable (active : List PointPair)

/-- A rounded sum of products; the entries of both matrices are such sums. -/
def moment (f g : PointPair → Int) : Int :=
  shiftRight ((active.map fun pair => f pair * g pair).sum + 0x80) 8

def sourceX (pair : PointPair) : Int := pair.source.x
def sourceY (pair : PointPair) : Int := pair.source.y
def unitEntry (_ : PointPair) : Int := 0x100

/-- The moments, as multiples of those of points of the unit cube. The sums with the unit entry
are not rounded. -/
structure ScaledMoments (goal : PointPair → Int) (bound : ℚ) where
  mean : CubeMoments ℚ
  xx : ℚ
  xy : ℚ
  yy : ℚ
  xt : ℚ
  yt : ℚ
  near : mean.Approximates (1 / 2 ^ 20) xx xy yy xt yt
  moment_xx : (moment active sourceX sourceX : ℚ) = active.length * (20479 * 20479 / 256) * xx
  moment_xy : (moment active sourceX sourceY : ℚ) = active.length * (20479 * 16383 / 256) * xy
  moment_yy : (moment active sourceY sourceY : ℚ) = active.length * (16383 * 16383 / 256) * yy
  moment_xt : (moment active sourceX goal : ℚ) = active.length * (20479 * bound / 256) * xt
  moment_yt : (moment active sourceY goal : ℚ) = active.length * (16383 * bound / 256) * yt
  moment_x : (moment active sourceX unitEntry : ℚ) = active.length * 20479 * mean.x
  moment_y : (moment active sourceY unitEntry : ℚ) = active.length * 16383 * mean.y
  moment_t : (moment active unitEntry goal : ℚ) = active.length * bound * mean.t

variable {active}

lemma moment_close (f g : PointPair → Int) :
    |256 * (moment active f g : ℚ) - (active.map fun pair => (f pair * g pair : ℚ)).sum| ≤ 128 := by
  have cast : (active.map fun pair => (f pair * g pair : ℚ)).sum =
      ((active.map fun pair => f pair * g pair).sum : ℤ) := by
    rw [Int.cast_list_sum, List.map_map]
    refine congrArg List.sum (List.map_congr_left fun pair _ => ?_)
    exact (Int.cast_mul _ _).symm
  have floor : 256 * moment active f g ≤ (active.map fun pair => f pair * g pair).sum + 128 ∧
      (active.map fun pair => f pair * g pair).sum + 128 < 256 * moment active f g + 256 := by
    unfold moment shiftRight
    omega
  rw [cast, abs_le]
  obtain ⟨low, high⟩ := floor
  have low : (256 * moment active f g : ℚ) ≤
      (active.map fun pair => f pair * g pair).sum + 128 := by
    exact_mod_cast low
  have high : ((active.map fun pair => f pair * g pair).sum : ℚ) + 128 <
      256 * moment active f g + 256 := by
    exact_mod_cast high
  constructor
  · linarith
  · linarith

lemma expect_getElem (f : PointPair → ℚ) :
    𝔼 i : Fin active.length, f (active.get i) = (active.map f).sum / active.length := by
  rw [Fintype.expect_eq_sum_div_card, Fintype.card_fin]
  congr 1
  exact Fin.sum_univ_fun_getElem active f

/-- A rounded moment of large coordinates is near the mean of the scaled ones. -/
lemma moment_div_near (f g : PointPair → Int) {p q : ℚ} (hp : 16383 ≤ p)
    (hq : 16383 ≤ q) :
    |moment active f g / (active.length * (p * q / 256)) -
      𝔼 i : Fin active.length, (f (active.get i) / p) * (g (active.get i) / q)| ≤ 1 / 2 ^ 20 := by
  rcases eq_or_ne active [] with rfl | some
  · simp
  have count : (1 : ℚ) ≤ active.length := by
    exact_mod_cast List.length_pos_iff.mpr some
  have area : 16383 * 16383 ≤ p * q := mul_le_mul hp hq (by norm_num) (by linarith)
  have size : 16383 * 16383 ≤ active.length * (p * q) := by nlinarith
  have p0 : p ≠ 0 := by linarith
  have q0 : q ≠ 0 := by linarith
  have n0 : (active.length : ℚ) ≠ 0 := by linarith
  rw [expect_getElem fun pair => (f pair / p) * (g pair / q)]
  have scaled : (active.map fun pair => (f pair / p : ℚ) * (g pair / q)).sum =
      (active.map fun pair => (f pair * g pair : ℚ)).sum / (p * q) := by
    rw [div_eq_mul_inv, ← List.sum_map_mul_right]
    refine congrArg List.sum (List.map_congr_left fun pair _ => ?_)
    field_simp
  have joined : moment active f g / (active.length * (p * q / 256)) -
      (active.map fun pair => (f pair / p : ℚ) * (g pair / q)).sum / active.length =
      (256 * moment active f g - (active.map fun pair => (f pair * g pair : ℚ)).sum) /
        (active.length * (p * q)) := by
    rw [scaled]
    field_simp
  rw [joined, abs_div, abs_of_pos (by linarith : (0 : ℚ) < active.length * (p * q)),
    div_le_iff₀ (by linarith)]
  exact (moment_close f g).trans (by linarith)

/-- The unit entry makes the sum a multiple of 0x100. -/
lemma moment_unit (f : PointPair → Int) :
    (moment active f unitEntry : ℚ) = (active.map fun pair => (f pair : ℚ)).sum := by
  have whole : (active.map fun pair => f pair * unitEntry pair).sum =
      (active.map f).sum * 0x100 := List.sum_map_mul_right active f 0x100
  have exact : moment active f unitEntry = (active.map f).sum := by
    unfold moment shiftRight
    omega
  rw [exact, Int.cast_list_sum, List.map_map]
  rfl

lemma moment_comm (f g : PointPair → Int) : moment active f g = moment active g f := by
  unfold moment
  simp only [mul_comm]

/-- A sum with the unit entry is the scaled mean. -/
lemma moment_unit_eq (f : PointPair → Int) {p : ℚ} (hp : 16383 ≤ p) :
    (moment active f unitEntry : ℚ) =
      active.length * p * 𝔼 i : Fin active.length, f (active.get i) / p := by
  rcases eq_or_ne active [] with rfl | some
  · simp [moment_unit]
  have p0 : p ≠ 0 := by linarith
  have n0 : (active.length : ℚ) ≠ 0 := by
    exact_mod_cast (List.length_pos_iff.mpr some).ne'
  have scaled : (active.map fun pair => (f pair / p : ℚ)).sum =
      (active.map fun pair => (f pair : ℚ)).sum / p := by
    rw [div_eq_mul_inv, ← List.sum_map_mul_right]
    rfl
  rw [moment_unit, expect_getElem fun pair => (f pair / p : ℚ), scaled]
  field_simp

/-- A coordinate within its bound. -/
def Within (active : List PointPair) (f : PointPair → Int) (bound : ℚ) : Prop :=
  ∀ pair ∈ active, 0 ≤ f pair ∧ (f pair : ℚ) ≤ bound

lemma Within.nonneg {f : PointPair → Int} {p : ℚ} (within : Within active f p) (hp : 16383 ≤ p)
    (i : Fin active.length) : 0 ≤ (f (active.get i) : ℚ) / p := by
  have low : (0 : ℚ) ≤ f (active.get i) := by
    exact_mod_cast (within _ (List.get_mem active i)).1
  exact div_nonneg low (by linarith)

lemma Within.le_one {f : PointPair → Int} {p : ℚ} (within : Within active f p) (hp : 16383 ≤ p)
    (i : Fin active.length) : (f (active.get i) : ℚ) / p ≤ 1 :=
  (div_le_one (by linarith)).mpr (within _ (List.get_mem active i)).2

lemma scale_mul_div (f g : PointPair → Int) {p q : ℚ} (p0 : p ≠ 0) (q0 : q ≠ 0) :
    (moment active f g : ℚ) =
      active.length * (p * q / 256) * (moment active f g / (active.length * (p * q / 256))) := by
  rcases eq_or_ne active [] with rfl | some
  · simp [moment, shiftRight]
  have n0 : (active.length : ℚ) ≠ 0 := by
    exact_mod_cast (List.length_pos_iff.mpr some).ne'
  field_simp

/-- The means of the scaled points, and the rounded moments beside them. -/
def scaledMoments {goal : PointPair → Int} {bound : ℚ}
    (x : Within active sourceX 20479) (y : Within active sourceY 16383)
    (t : Within active goal bound) (wide : 16383 ≤ bound) : ScaledMoments active goal bound where
  mean := CubeMoments.ofPoints univ (fun i : Fin active.length => sourceX (active.get i) / 20479)
    (fun i => sourceY (active.get i) / 16383) (fun i => goal (active.get i) / bound)
    (fun i _ => x.nonneg (by norm_num) i) (fun i _ => x.le_one (by norm_num) i)
    (fun i _ => y.nonneg le_rfl i) (fun i _ => y.le_one le_rfl i)
    (fun i _ => t.nonneg wide i) (fun i _ => t.le_one wide i)
  xx := moment active sourceX sourceX / (active.length * (20479 * 20479 / 256))
  xy := moment active sourceX sourceY / (active.length * (20479 * 16383 / 256))
  yy := moment active sourceY sourceY / (active.length * (16383 * 16383 / 256))
  xt := moment active sourceX goal / (active.length * (20479 * bound / 256))
  yt := moment active sourceY goal / (active.length * (16383 * bound / 256))
  near :=
    { xx := moment_div_near sourceX sourceX (by norm_num) (by norm_num)
      xy := moment_div_near sourceX sourceY (by norm_num) le_rfl
      yy := moment_div_near sourceY sourceY le_rfl le_rfl
      xt := moment_div_near sourceX goal (by norm_num) wide
      yt := moment_div_near sourceY goal le_rfl wide }
  moment_xx := scale_mul_div _ _ (by norm_num) (by norm_num)
  moment_xy := scale_mul_div _ _ (by norm_num) (by norm_num)
  moment_yy := scale_mul_div _ _ (by norm_num) (by norm_num)
  moment_xt := scale_mul_div _ _ (by norm_num) (by linarith)
  moment_yt := scale_mul_div _ _ (by norm_num) (by linarith)
  moment_x := moment_unit_eq sourceX (by norm_num)
  moment_y := moment_unit_eq sourceY le_rfl
  moment_t := by
    rw [moment_comm]
    exact moment_unit_eq goal wide

/-! ### The sums of the refinement, in units of the cube -/

namespace ScaledMoments

open CubeMoments

variable {goal : PointPair → Int} {bound : ℚ} (m : ScaledMoments active goal bound)

lemma moment_unit_unit : (moment active unitEntry unitEntry : ℚ) = 256 * active.length := by
  rw [moment_unit]
  simp [unitEntry, mul_comm]

include m in
/-- The terms of the horizontal slope. -/
lemma slope_runs (wide : 0 ≤ bound) :
    RunsWithin ((active.length : ℚ) ^ 3 * (16383 ^ 2 * 20479 * bound / 256) *
        (1 / 4 + 18 * (1 / 2 ^ 20)))
      ((moment active sourceY sourceY * moment active unitEntry unitEntry -
        moment active sourceY unitEntry ^ 2) * moment active sourceX goal : ℚ)
      ((moment active sourceX unitEntry * moment active sourceY unitEntry -
        moment active sourceX sourceY * moment active unitEntry unitEntry) *
          moment active sourceY goal : ℚ)
      ((moment active sourceX sourceY * moment active sourceY unitEntry -
        moment active sourceX unitEntry * moment active sourceY sourceY) *
          moment active unitEntry goal : ℚ) := by
  have unit : 0 ≤ (active.length : ℚ) ^ 3 * (16383 ^ 2 * 20479 * bound / 256) := by positivity
  have runs := (m.near.slope_runs (by norm_num)).scale unit
  convert runs using 1
  · rw [m.moment_yy, moment_unit_unit, m.moment_y, m.moment_xt]
    ring
  · rw [m.moment_x, m.moment_y, m.moment_xy, moment_unit_unit, m.moment_yt]
    ring
  · rw [m.moment_x, m.moment_y, m.moment_xy, m.moment_yy, m.moment_t]
    ring

include m in
/-- The terms of the vertical slope: those of the other one with the coordinates exchanged. -/
lemma steep_runs (wide : 0 ≤ bound) :
    RunsWithin ((active.length : ℚ) ^ 3 * (16383 * 20479 ^ 2 * bound / 256) *
        (1 / 4 + 18 * (1 / 2 ^ 20)))
      ((moment active sourceX unitEntry * moment active sourceY unitEntry -
        moment active sourceX sourceY * moment active unitEntry unitEntry) *
          moment active sourceX goal : ℚ)
      ((moment active sourceX sourceX * moment active unitEntry unitEntry -
        moment active sourceX unitEntry ^ 2) * moment active sourceY goal : ℚ)
      ((moment active sourceX sourceY * moment active sourceX unitEntry -
        moment active sourceX sourceX * moment active sourceY unitEntry) *
          moment active unitEntry goal : ℚ) := by
  have unit : 0 ≤ (active.length : ℚ) ^ 3 * (16383 * 20479 ^ 2 * bound / 256) := by positivity
  have runs := (m.near.swap.slope_runs (by norm_num)).exchange.scale unit
  convert runs using 1
  · rw [m.moment_x, m.moment_y, m.moment_xy, moment_unit_unit, m.moment_xt]
    simp only [swap]
    ring
  · rw [m.moment_xx, moment_unit_unit, m.moment_x, m.moment_yt]
    simp only [swap]
    ring
  · rw [m.moment_x, m.moment_y, m.moment_xy, m.moment_xx, m.moment_t]
    simp only [swap]
    ring

include m in
lemma translation_runs (wide : 0 ≤ bound) :
    RunsWithin ((active.length : ℚ) ^ 3 * (16383 ^ 2 * 20479 ^ 2 * bound / 256 ^ 2) *
        (1 / 3 + 18 * (1 / 2 ^ 20)))
      ((moment active sourceX sourceY * moment active sourceY unitEntry -
        moment active sourceY sourceY * moment active sourceX unitEntry) *
          moment active sourceX goal : ℚ)
      ((moment active sourceX sourceY * moment active sourceX unitEntry -
        moment active sourceX sourceX * moment active sourceY unitEntry) *
          moment active sourceY goal : ℚ)
      ((moment active sourceX sourceX * moment active sourceY sourceY -
        moment active sourceX sourceY ^ 2) * moment active unitEntry goal : ℚ) := by
  have unit : 0 ≤ (active.length : ℚ) ^ 3 * (16383 ^ 2 * 20479 ^ 2 * bound / 256 ^ 2) := by
    positivity
  have runs := (m.near.translation_runs (by norm_num)).scale unit
  convert runs using 1
  · rw [m.moment_x, m.moment_y, m.moment_xy, m.moment_yy, m.moment_xt]
    ring
  · rw [m.moment_x, m.moment_y, m.moment_xy, m.moment_xx, m.moment_yt]
    ring
  · rw [m.moment_xx, m.moment_yy, m.moment_xy, m.moment_t]
    ring

end ScaledMoments

end Moments

end GoodixSpi.Chicago
