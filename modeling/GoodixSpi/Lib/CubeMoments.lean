import Mathlib.Algebra.Order.BigOperators.Expect
import Mathlib.Tactic.Linarith
import Mathlib.Tactic.Ring
import Mathlib.Tactic.Positivity
import Mathlib.Tactic.Lemma

/-! Means over points of the unit cube: two coordinates, a goal, and the products that a
least-squares fit of the goal is made of. The terms of the fit's numerators stay small, also when
the means are rounded. -/

open Finset
open scoped BigOperators

/-- The means of the two coordinates and the goal, and of their products. -/
structure CubeMoments (K : Type*) [Field K] [LinearOrder K] [IsStrictOrderedRing K] where
  x : K
  y : K
  t : K
  xx : K
  xy : K
  yy : K
  xt : K
  yt : K
  x_nonneg : 0 ≤ x
  y_nonneg : 0 ≤ y
  x_le_one : x ≤ 1
  y_le_one : y ≤ 1
  t_le_one : t ≤ 1
  sq_le_xx : x ^ 2 ≤ xx
  sq_le_yy : y ^ 2 ≤ yy
  xx_le : xx ≤ x
  yy_le : yy ≤ y
  xy_nonneg : 0 ≤ xy
  xy_le_x : xy ≤ x
  xy_le_y : xy ≤ y
  le_xy : x + y - 1 ≤ xy
  sq_le : xy ^ 2 ≤ xx * yy
  xt_nonneg : 0 ≤ xt
  yt_nonneg : 0 ≤ yt
  xt_le_x : xt ≤ x
  yt_le_y : yt ≤ y
  xt_le_t : xt ≤ t
  yt_le_t : yt ≤ t
  le_xt : x + t - 1 ≤ xt
  le_yt : y + t - 1 ≤ yt

namespace CubeMoments

variable {K : Type*} [Field K] [LinearOrder K] [IsStrictOrderedRing K] (m : CubeMoments K)

def swap : CubeMoments K where
  x := m.y
  y := m.x
  t := m.t
  xx := m.yy
  xy := m.xy
  yy := m.xx
  xt := m.yt
  yt := m.xt
  x_nonneg := m.y_nonneg
  y_nonneg := m.x_nonneg
  x_le_one := m.y_le_one
  y_le_one := m.x_le_one
  t_le_one := m.t_le_one
  sq_le_xx := m.sq_le_yy
  sq_le_yy := m.sq_le_xx
  xx_le := m.yy_le
  yy_le := m.xx_le
  xy_nonneg := m.xy_nonneg
  xy_le_x := m.xy_le_y
  xy_le_y := m.xy_le_x
  le_xy := (add_comm m.y m.x).symm ▸ m.le_xy
  sq_le := (mul_comm m.yy m.xx).symm ▸ m.sq_le
  xt_nonneg := m.yt_nonneg
  yt_nonneg := m.xt_nonneg
  xt_le_x := m.yt_le_y
  yt_le_y := m.xt_le_x
  xt_le_t := m.yt_le_t
  yt_le_t := m.xt_le_t
  le_xt := m.le_yt
  le_yt := m.le_xt

lemma mul_one_sub_le (a : K) : a * (1 - a) ≤ 1 / 4 := by
  have square := sq_nonneg (a - 1 / 2)
  linarith

lemma t_nonneg : 0 ≤ m.t := m.xt_nonneg.trans m.xt_le_t

lemma xx_nonneg : 0 ≤ m.xx := (sq_nonneg m.x).trans m.sq_le_xx

lemma yy_nonneg : 0 ≤ m.yy := (sq_nonneg m.y).trans m.sq_le_yy

/-- Two means and the mean of the product. -/
lemma abs_covariance_le {p q pq : K} (p0 : 0 ≤ p) (q0 : 0 ≤ q) (p1 : p ≤ 1)
    (pq0 : 0 ≤ pq) (pqp : pq ≤ p) (pqq : pq ≤ q) (low : p + q - 1 ≤ pq) :
    |pq - p * q| ≤ 1 / 4 := by
  have hp := mul_one_sub_le p
  have hq := mul_one_sub_le q
  rw [abs_le]
  constructor
  · rcases le_total (p + q) 1 with h | h
    · nlinarith [sq_nonneg (p - q)]
    · nlinarith [sq_nonneg (p - q)]
  · rcases le_total p q with h | h
    · nlinarith
    · nlinarith

lemma abs_cov_le : |m.xy - m.x * m.y| ≤ 1 / 4 :=
  abs_covariance_le m.x_nonneg m.y_nonneg m.x_le_one m.xy_nonneg m.xy_le_x m.xy_le_y
    m.le_xy

lemma abs_cov_xt_le : |m.xt - m.x * m.t| ≤ 1 / 4 :=
  abs_covariance_le m.x_nonneg m.t_nonneg m.x_le_one m.xt_nonneg m.xt_le_x m.xt_le_t
    m.le_xt

lemma abs_cov_yt_le : |m.yt - m.y * m.t| ≤ 1 / 4 :=
  m.swap.abs_cov_xt_le

lemma variance_nonneg : 0 ≤ m.yy - m.y ^ 2 := sub_nonneg.mpr m.sq_le_yy

lemma variance_le : m.yy - m.y ^ 2 ≤ m.y * (1 - m.y) := by
  have below := m.yy_le
  linarith

lemma variance_le_quarter : m.yy - m.y ^ 2 ≤ 1 / 4 := m.variance_le.trans (mul_one_sub_le m.y)

def drift : K := m.xy * m.y - m.yy * m.x

lemma drift_le : m.drift ≤ 1 / 4 := by
  have hq := mul_one_sub_le m.y
  have h1 := m.sq_le_yy
  have h2 := m.xy_le_x
  unfold drift
  have a : m.xy * m.y ≤ m.x * m.y := mul_le_mul_of_nonneg_right h2 m.y_nonneg
  have b : m.y ^ 2 * m.x ≤ m.yy * m.x := mul_le_mul_of_nonneg_right h1 m.x_nonneg
  have c : m.x * (m.y * (1 - m.y)) ≤ 1 * (1 / 4) :=
    mul_le_mul m.x_le_one hq (mul_nonneg m.y_nonneg (sub_nonneg.mpr m.y_le_one)) zero_le_one
  nlinarith

lemma neg_drift_le : -m.drift ≤ 1 / 4 := by
  have hq := mul_one_sub_le m.y
  unfold drift
  have a : m.yy * m.x ≤ m.y * m.x := mul_le_mul_of_nonneg_right m.yy_le m.x_nonneg
  have b : (m.x + m.y - 1) * m.y ≤ m.xy * m.y := mul_le_mul_of_nonneg_right m.le_xy m.y_nonneg
  nlinarith

/-! ### The rows -/

/-- Three terms and their running sums. -/
structure RunsWithin (r a b c : K) : Prop where
  first : |a| ≤ r
  second : |b| ≤ r
  third : |c| ≤ r
  two : |a + b| ≤ r
  three : |a + b + c| ≤ r

lemma xt_le_one : m.xt ≤ 1 := m.xt_le_x.trans m.x_le_one

lemma yt_le_one : m.yt ≤ 1 := m.yt_le_y.trans m.y_le_one

/-- A weight in the unit interval does not enlarge a quarter. -/
lemma abs_mul_le_quarter {w v : K} (w0 : 0 ≤ w) (w1 : w ≤ 1) (small : |v| ≤ 1 / 4) :
    |w * v| ≤ 1 / 4 := by
  rw [abs_mul, abs_of_nonneg w0]
  calc w * |v| ≤ 1 * |v| := mul_le_mul_of_nonneg_right w1 (abs_nonneg v)
    _ ≤ 1 / 4 := by rwa [one_mul]

lemma abs_variance_le : |m.yy - m.y ^ 2| ≤ 1 / 4 := by
  rw [abs_of_nonneg m.variance_nonneg]
  exact m.variance_le_quarter

lemma abs_drift_le : |m.drift| ≤ 1 / 4 :=
  abs_le.mpr ⟨neg_le.mp m.neg_drift_le, m.drift_le⟩

lemma slope_runs : RunsWithin (1 / 4) (m.xt * (m.yy - m.y ^ 2)) (-(m.yt * (m.xy - m.x * m.y)))
    (m.t * m.drift) := by
  have lead := abs_mul_le_quarter m.xt_nonneg m.xt_le_one m.abs_variance_le
  have mixed := abs_mul_le_quarter m.yt_nonneg m.yt_le_one m.abs_cov_le
  refine ⟨lead, (abs_neg _).trans_le mixed,
    abs_mul_le_quarter m.t_nonneg m.t_le_one m.abs_drift_le, ?_, ?_⟩
  · have positive := mul_nonneg m.xt_nonneg m.variance_nonneg
    rw [abs_le] at lead mixed ⊢
    constructor
    · linarith
    · rcases le_total 0 (m.xy - m.x * m.y) with up | down
      · have nonneg := mul_nonneg m.yt_nonneg up
        linarith
      · have first : m.xt * (m.yy - m.y ^ 2) ≤ m.x * (m.y * (1 - m.y)) :=
          mul_le_mul m.xt_le_x m.variance_le m.variance_nonneg m.x_nonneg
        have apart : -(m.xy - m.x * m.y) ≤ (1 - m.x) * (1 - m.y) := by
          have low := m.le_xy
          linarith
        have second : m.yt * -(m.xy - m.x * m.y) ≤ m.y * ((1 - m.x) * (1 - m.y)) :=
          mul_le_mul m.yt_le_y apart (neg_nonneg.mpr down) m.y_nonneg
        have total := mul_one_sub_le m.y
        linarith
  · have split : m.xt * (m.yy - m.y ^ 2) + -(m.yt * (m.xy - m.x * m.y)) + m.t * m.drift =
        (m.yy - m.y ^ 2) * (m.xt - m.x * m.t) - (m.xy - m.x * m.y) * (m.yt - m.y * m.t) := by
      unfold drift
      ring
    rw [split]
    have first := mul_le_mul m.abs_variance_le m.abs_cov_xt_le (abs_nonneg _) (by positivity)
    have second := mul_le_mul m.abs_cov_le m.abs_cov_yt_le (abs_nonneg _) (by positivity)
    rw [← abs_mul] at first second
    calc _ ≤ _ := abs_sub _ _
      _ ≤ 1 / 4 * (1 / 4) + 1 / 4 * (1 / 4) := add_le_add first second
      _ ≤ 1 / 4 := by norm_num

/-! ### The translation -/

lemma det_nonneg : 0 ≤ m.xx * m.yy - m.xy ^ 2 := sub_nonneg.mpr m.sq_le

lemma det_le : m.xx * m.yy - m.xy ^ 2 ≤ 1 / 3 := by
  have top : m.xx * m.yy ≤ m.x * m.y := mul_le_mul m.xx_le m.yy_le m.yy_nonneg m.x_nonneg
  rcases le_total (m.x + m.y) 1 with few | many
  · nlinarith [sq_nonneg (m.x - m.y), sq_nonneg m.xy, m.x_nonneg, m.y_nonneg]
  · have low := mul_le_mul m.le_xy m.le_xy (sub_nonneg.mpr many) m.xy_nonneg
    nlinarith [sq_nonneg (m.x - m.y), sq_nonneg (3 * (m.x + m.y) - 4)]

/-- The two drifts are not positive at once. -/
lemma drift_nonpos_or : m.drift ≤ 0 ∨ m.swap.drift ≤ 0 := by
  rcases le_or_gt m.drift 0 with h | h
  · exact .inl h
  · right
    by_contra up
    have up := not_le.mp up
    have h : m.yy * m.x < m.xy * m.y := sub_pos.mp h
    have up : m.xx * m.y < m.xy * m.x := sub_pos.mp up
    have both := mul_lt_mul'' h up (mul_nonneg m.yy_nonneg m.x_nonneg)
      (mul_nonneg m.xx_nonneg m.y_nonneg)
    have under := mul_le_mul_of_nonneg_right m.sq_le (mul_nonneg m.x_nonneg m.y_nonneg)
    nlinarith

lemma pull_le : m.x * -m.drift + m.y * -m.swap.drift ≤ 1 / 3 := by
  have first : m.x * (m.yy * m.x) ≤ m.x * (m.y * m.x) :=
    mul_le_mul_of_nonneg_left (mul_le_mul_of_nonneg_right m.yy_le m.x_nonneg) m.x_nonneg
  have second : m.y * (m.xx * m.y) ≤ m.y * (m.x * m.y) :=
    mul_le_mul_of_nonneg_left (mul_le_mul_of_nonneg_right m.xx_le m.y_nonneg) m.y_nonneg
  have product := mul_nonneg m.x_nonneg m.y_nonneg
  have mean : m.x * m.y ≤ (m.x + m.y) ^ 2 / 4 := by linarith [sq_nonneg (m.x - m.y)]
  have left : m.x * -m.drift + m.y * -m.swap.drift ≤ m.x * m.y * (m.x + m.y - 2 * m.xy) := by
    simp only [drift, swap]
    linarith
  refine left.trans ?_
  rcases le_total (m.x + m.y) 1 with few | many
  · have gap : m.x + m.y - 2 * m.xy ≤ 1 := by linarith [m.xy_nonneg]
    have small : m.x * m.y ≤ 1 / 4 := by nlinarith [m.x_nonneg, m.y_nonneg]
    calc m.x * m.y * (m.x + m.y - 2 * m.xy) ≤ m.x * m.y * 1 :=
          mul_le_mul_of_nonneg_left gap product
      _ ≤ 1 / 3 := by linarith
  · have gap : m.x + m.y - 2 * m.xy ≤ 2 - (m.x + m.y) := by linarith [m.le_xy]
    have room : 0 ≤ 2 - (m.x + m.y) := by linarith [m.x_le_one, m.y_le_one]
    have cubic : 0 ≤ (3 * (m.x + m.y) - 4) ^ 2 * (3 * (m.x + m.y) + 2) :=
      mul_nonneg (sq_nonneg _) (by linarith)
    calc m.x * m.y * (m.x + m.y - 2 * m.xy)
        ≤ m.x * m.y * (2 - (m.x + m.y)) := mul_le_mul_of_nonneg_left gap product
      _ ≤ (m.x + m.y) ^ 2 / 4 * (2 - (m.x + m.y)) := mul_le_mul_of_nonneg_right mean room
      _ ≤ 1 / 3 := by linarith

/-- A point that pulls one way is bounded by the determinant's slack. -/
lemma drift_add_det_le : m.drift + (m.xx * m.yy - m.xy ^ 2) ≤ 1 / 4 := by
  have shrink : m.yy * m.xx ≤ m.yy * m.x := mul_le_mul_of_nonneg_left m.xx_le m.yy_nonneg
  have square := sq_nonneg (m.y - 2 * m.xy)
  have unit : m.y ^ 2 ≤ 1 := pow_le_one₀ m.y_nonneg m.y_le_one
  unfold drift
  linarith

lemma t_mul_drift_add_det_le (up : 0 ≤ m.drift) :
    m.xt * m.drift + m.t * (m.xx * m.yy - m.xy ^ 2) ≤ 1 / 4 := by
  have weight := mul_le_mul_of_nonneg_right m.xt_le_t up
  have whole := mul_le_of_le_one_left (add_nonneg up m.det_nonneg) m.t_le_one
  have bounded := m.drift_add_det_le
  linarith

lemma translation_runs : RunsWithin (1 / 3) (m.xt * m.drift) (m.yt * m.swap.drift)
    (m.t * (m.xx * m.yy - m.xy ^ 2)) := by
  have first := abs_mul_le_quarter m.xt_nonneg m.xt_le_one m.abs_drift_le
  have second := abs_mul_le_quarter m.yt_nonneg m.yt_le_one m.swap.abs_drift_le
  have third : m.t * (m.xx * m.yy - m.xy ^ 2) ≤ 1 / 3 :=
    (mul_le_of_le_one_left m.det_nonneg m.t_le_one).trans m.det_le
  have positive := mul_nonneg m.t_nonneg m.det_nonneg
  rw [abs_le] at first second
  have low : -(1 / 3) ≤ m.xt * m.drift + m.yt * m.swap.drift := by
    rcases le_total 0 m.drift with up | down
    · have nonneg := mul_nonneg m.xt_nonneg up
      linarith
    · rcases le_total 0 m.swap.drift with up' | down'
      · have nonneg := mul_nonneg m.yt_nonneg up'
        linarith
      · have total := m.pull_le
        have left := mul_le_mul_of_nonneg_right m.xt_le_x (neg_nonneg.mpr down)
        have right := mul_le_mul_of_nonneg_right m.yt_le_y (neg_nonneg.mpr down')
        linarith
  have high : m.xt * m.drift + m.yt * m.swap.drift ≤ 1 / 4 := by
    rcases m.drift_nonpos_or with down | down
    · have nonpos := mul_nonpos_of_nonneg_of_nonpos m.xt_nonneg down
      linarith
    · have nonpos := mul_nonpos_of_nonneg_of_nonpos m.yt_nonneg down
      linarith
  have total : m.xt * m.drift + m.yt * m.swap.drift + m.t * (m.xx * m.yy - m.xy ^ 2) ≤ 1 / 3 := by
    rcases m.drift_nonpos_or with down | down
    · rcases le_total m.swap.drift 0 with down' | up
      · have left := mul_nonpos_of_nonneg_of_nonpos m.xt_nonneg down
        have right := mul_nonpos_of_nonneg_of_nonpos m.yt_nonneg down'
        linarith
      · have bounded := m.swap.t_mul_drift_add_det_le up
        have left := mul_nonpos_of_nonneg_of_nonpos m.xt_nonneg down
        simp only [swap] at bounded left ⊢
        linarith
    · rcases le_total m.drift 0 with down' | up
      · have left := mul_nonpos_of_nonneg_of_nonpos m.xt_nonneg down'
        have right := mul_nonpos_of_nonneg_of_nonpos m.yt_nonneg down
        linarith
      · have bounded := m.t_mul_drift_add_det_le up
        have right := mul_nonpos_of_nonneg_of_nonpos m.yt_nonneg down
        linarith
  refine ⟨abs_le.mpr ⟨?_, ?_⟩, abs_le.mpr ⟨?_, ?_⟩, abs_le.mpr ⟨?_, third⟩, abs_le.mpr ⟨low, ?_⟩,
    abs_le.mpr ⟨?_, total⟩⟩
  all_goals linarith

/-! ### Rounded means -/

/-- Values near the means of the products. -/
structure Approximates (δ xx xy yy xt yt : K) : Prop where
  xx : |xx - m.xx| ≤ δ
  xy : |xy - m.xy| ≤ δ
  yy : |yy - m.yy| ≤ δ
  xt : |xt - m.xt| ≤ δ
  yt : |yt - m.yt| ≤ δ

variable {m} {δ xx xy yy xt yt : K}

lemma Approximates.swap (near : m.Approximates δ xx xy yy xt yt) :
    m.swap.Approximates δ yy xy xx yt xt :=
  ⟨near.yy, near.xy, near.xx, near.yt, near.xt⟩

lemma RunsWithin.perturb {r ε a b c a' b' c' : K} (runs : RunsWithin r a b c)
    (ha : |a' - a| ≤ ε) (hb : |b' - b| ≤ ε) (hc : |c' - c| ≤ ε) :
    RunsWithin (r + 3 * ε) a' b' c' := by
  obtain ⟨first, second, third, two, three⟩ := runs
  have room := (abs_nonneg _).trans ha
  rw [abs_le] at first second third two three ha hb hc
  refine ⟨abs_le.mpr ⟨?_, ?_⟩, abs_le.mpr ⟨?_, ?_⟩, abs_le.mpr ⟨?_, ?_⟩, abs_le.mpr ⟨?_, ?_⟩,
    abs_le.mpr ⟨?_, ?_⟩⟩
  all_goals linarith

lemma RunsWithin.scale {r k a b c : K} (runs : RunsWithin r a b c) (positive : 0 ≤ k) :
    RunsWithin (k * r) (k * a) (k * b) (k * c) := by
  have scaled : ∀ {v : K}, |v| ≤ r → |k * v| ≤ k * r := fun small => by
    rw [abs_mul, abs_of_nonneg positive]
    exact mul_le_mul_of_nonneg_left small positive
  refine ⟨scaled runs.first, scaled runs.second, scaled runs.third, ?_, ?_⟩
  · rw [← mul_add]
    exact scaled runs.two
  · rw [← mul_add, ← mul_add]
    exact scaled runs.three

omit [IsStrictOrderedRing K] in
lemma RunsWithin.exchange {r a b c : K} (runs : RunsWithin r a b c) : RunsWithin r b a c :=
  ⟨runs.second, runs.first, runs.third, (add_comm b a) ▸ runs.two, (add_comm b a) ▸ runs.three⟩

/-- Factors of the unit interval. -/
lemma abs_mul_sub_mul_le {a a' b b' ε : K} (ha : |a' - a| ≤ δ) (hb : |b' - b| ≤ ε)
    (small : δ ≤ 1) (a1 : |a| ≤ 1) (b1 : |b| ≤ 1) : |a' * b' - a * b| ≤ δ + 2 * ε := by
  have double : |a'| ≤ 2 := by
    calc |a'| = |a' - a + a| := by rw [sub_add_cancel]
      _ ≤ |a' - a| + |a| := abs_add_le _ _
      _ ≤ 2 := by linarith
  have split : a' * b' - a * b = (a' - a) * b + a' * (b' - b) := by ring
  have first := mul_le_mul ha b1 (abs_nonneg _) ((abs_nonneg _).trans ha)
  have second := mul_le_mul double hb (abs_nonneg _) zero_le_two
  rw [split]
  calc |(a' - a) * b + a' * (b' - b)| ≤ |(a' - a) * b| + |a' * (b' - b)| := abs_add_le _ _
    _ ≤ δ * 1 + 2 * ε := by
      rw [abs_mul, abs_mul]
      exact add_le_add first second
    _ = δ + 2 * ε := by rw [mul_one]

lemma Approximates.abs_drift_sub_le (near : m.Approximates δ xx xy yy xt yt) :
    |xy * m.y - yy * m.x - m.drift| ≤ 2 * δ := by
  have first := mul_le_mul near.xy (abs_le.mpr ⟨by linarith [m.y_nonneg], m.y_le_one⟩)
    (abs_nonneg _) ((abs_nonneg _).trans near.xy)
  have second := mul_le_mul near.yy (abs_le.mpr ⟨by linarith [m.x_nonneg], m.x_le_one⟩)
    (abs_nonneg _) ((abs_nonneg _).trans near.xy)
  have split : xy * m.y - yy * m.x - m.drift = (xy - m.xy) * m.y - (yy - m.yy) * m.x := by
    unfold drift
    ring
  rw [← abs_mul] at first second
  rw [split]
  calc _ ≤ _ := abs_sub _ _
    _ ≤ δ * 1 + δ * 1 := add_le_add first second
    _ = 2 * δ := by ring

lemma abs_le_one {v : K} (v0 : 0 ≤ v) (v1 : v ≤ 1) : |v| ≤ 1 := by rwa [abs_of_nonneg v0]

lemma abs_le_one_of_quarter {v : K} (small : |v| ≤ 1 / 4) : |v| ≤ 1 := by linarith

theorem Approximates.slope_runs (near : m.Approximates δ xx xy yy xt yt) (small : δ ≤ 1) :
    RunsWithin (1 / 4 + 18 * δ) (xt * (yy - m.y ^ 2)) (-(yt * (xy - m.x * m.y)))
      (m.t * (xy * m.y - yy * m.x)) := by
  have nonneg : 0 ≤ δ := (abs_nonneg _).trans near.xx
  have variance : |yy - m.y ^ 2 - (m.yy - m.y ^ 2)| ≤ δ := by
    rw [sub_sub_sub_cancel_right]
    exact near.yy
  have cov : |xy - m.x * m.y - (m.xy - m.x * m.y)| ≤ δ := by
    rw [sub_sub_sub_cancel_right]
    exact near.xy
  have first := abs_mul_sub_mul_le near.xt variance small (abs_le_one m.xt_nonneg m.xt_le_one)
    (abs_le_one_of_quarter m.abs_variance_le)
  have second := abs_mul_sub_mul_le near.yt cov small (abs_le_one m.yt_nonneg m.yt_le_one)
    (abs_le_one_of_quarter m.abs_cov_le)
  have turned : |-(yt * (xy - m.x * m.y)) - -(m.yt * (m.xy - m.x * m.y))| ≤ 6 * δ := by
    rw [neg_sub_neg, abs_sub_comm]
    exact second.trans (by linarith)
  have third : |m.t * (xy * m.y - yy * m.x) - m.t * m.drift| ≤ 6 * δ := by
    rw [← mul_sub, abs_mul, abs_of_nonneg m.t_nonneg]
    have bound := near.abs_drift_sub_le
    exact (mul_le_of_le_one_left (abs_nonneg _) m.t_le_one).trans (by linarith)
  have runs := m.slope_runs.perturb (first.trans (by linarith)) turned third
  rwa [show 1 / 4 + 3 * (6 * δ) = 1 / 4 + 18 * δ by ring] at runs

theorem Approximates.translation_runs (near : m.Approximates δ xx xy yy xt yt) (small : δ ≤ 1) :
    RunsWithin (1 / 3 + 18 * δ) (xt * (xy * m.y - yy * m.x)) (yt * (xy * m.x - xx * m.y))
      (m.t * (xx * yy - xy ^ 2)) := by
  have nonneg : 0 ≤ δ := (abs_nonneg _).trans near.xx
  have xy_one : |m.xy| ≤ 1 := abs_le_one m.xy_nonneg (m.xy_le_x.trans m.x_le_one)
  have first := abs_mul_sub_mul_le near.xt near.abs_drift_sub_le small
    (abs_le_one m.xt_nonneg m.xt_le_one) (abs_le_one_of_quarter m.abs_drift_le)
  have second := abs_mul_sub_mul_le near.yt near.swap.abs_drift_sub_le small
    (abs_le_one m.yt_nonneg m.yt_le_one) (abs_le_one_of_quarter m.swap.abs_drift_le)
  have squares := abs_mul_sub_mul_le near.xx near.yy small
    (abs_le_one m.xx_nonneg (m.xx_le.trans m.x_le_one))
    (abs_le_one m.yy_nonneg (m.yy_le.trans m.y_le_one))
  have mixed := abs_mul_sub_mul_le near.xy near.xy small xy_one xy_one
  have det : |xx * yy - xy ^ 2 - (m.xx * m.yy - m.xy ^ 2)| ≤ 6 * δ := by
    have split : xx * yy - xy ^ 2 - (m.xx * m.yy - m.xy ^ 2) =
        xx * yy - m.xx * m.yy - (xy * xy - m.xy * m.xy) := by ring
    rw [split]
    have triangle := abs_sub (xx * yy - m.xx * m.yy) (xy * xy - m.xy * m.xy)
    linarith
  have det_one : |m.xx * m.yy - m.xy ^ 2| ≤ 1 :=
    abs_le_one m.det_nonneg (m.det_le.trans (by norm_num))
  have third : |m.t * (xx * yy - xy ^ 2) - m.t * (m.xx * m.yy - m.xy ^ 2)| ≤ 6 * δ := by
    rw [← mul_sub, abs_mul, abs_of_nonneg m.t_nonneg]
    exact (mul_le_of_le_one_left (abs_nonneg _) m.t_le_one).trans det
  have runs := m.translation_runs.perturb (first.trans (by linarith))
    (second.trans (by linarith)) third
  rwa [show 1 / 3 + 3 * (6 * δ) = 1 / 3 + 18 * δ by ring] at runs

/-! ### The means of points -/

variable {ι : Type*} (s : Finset ι) (x y t : ι → K)

lemma expect_le_one {f : ι → K} (f1 : ∀ i ∈ s, f i ≤ 1) : 𝔼 i ∈ s, f i ≤ 1 := by
  rcases s.eq_empty_or_nonempty with rfl | some
  · rw [expect_empty]
    exact zero_le_one
  · exact expect_le some f1

/-- The mean of `(1 - f) (1 - g)` is not negative. -/
lemma expect_add_sub_one_le {f g : ι → K} (f1 : ∀ i ∈ s, f i ≤ 1) (g1 : ∀ i ∈ s, g i ≤ 1) :
    (𝔼 i ∈ s, f i) + (𝔼 i ∈ s, g i) - 1 ≤ 𝔼 i ∈ s, f i * g i := by
  rcases s.eq_empty_or_nonempty with rfl | some
  · rw [expect_empty, expect_empty, expect_empty]
    linarith [zero_le_one' K]
  · have both : 0 ≤ 𝔼 i ∈ s, (1 - f i) * (1 - g i) :=
      expect_nonneg fun i hi => mul_nonneg (sub_nonneg.mpr (f1 i hi)) (sub_nonneg.mpr (g1 i hi))
    have expand : 𝔼 i ∈ s, (1 - f i) * (1 - g i) =
        1 - (𝔼 i ∈ s, f i) - (𝔼 i ∈ s, g i) + 𝔼 i ∈ s, f i * g i := by
      rw [expect_congr rfl fun i _ =>
        show (1 - f i) * (1 - g i) = 1 - f i - g i + f i * g i by ring,
        expect_add_distrib, expect_sub_distrib, expect_sub_distrib, expect_const some]
    linarith

lemma sq_expect_le (f : ι → K) : (𝔼 i ∈ s, f i) ^ 2 ≤ 𝔼 i ∈ s, f i * f i := by
  rcases s.eq_empty_or_nonempty with rfl | some
  · simp
  · have bound := expect_mul_sq_le_sq_mul_sq s (fun _ => 1) f
    simp only [one_mul, one_pow, expect_const some, sq (f _)] at bound
    exact bound

/-- The means of points of the unit cube; without a point they are zero. -/
def ofPoints (x0 : ∀ i ∈ s, 0 ≤ x i) (x1 : ∀ i ∈ s, x i ≤ 1) (y0 : ∀ i ∈ s, 0 ≤ y i)
    (y1 : ∀ i ∈ s, y i ≤ 1) (t0 : ∀ i ∈ s, 0 ≤ t i) (t1 : ∀ i ∈ s, t i ≤ 1) : CubeMoments K where
  x := 𝔼 i ∈ s, x i
  y := 𝔼 i ∈ s, y i
  t := 𝔼 i ∈ s, t i
  xx := 𝔼 i ∈ s, x i * x i
  xy := 𝔼 i ∈ s, x i * y i
  yy := 𝔼 i ∈ s, y i * y i
  xt := 𝔼 i ∈ s, x i * t i
  yt := 𝔼 i ∈ s, y i * t i
  x_nonneg := expect_nonneg x0
  y_nonneg := expect_nonneg y0
  x_le_one := expect_le_one s x1
  y_le_one := expect_le_one s y1
  t_le_one := expect_le_one s t1
  sq_le_xx := sq_expect_le s x
  sq_le_yy := sq_expect_le s y
  xx_le := expect_le_expect fun i hi => mul_le_of_le_one_left (x0 i hi) (x1 i hi)
  yy_le := expect_le_expect fun i hi => mul_le_of_le_one_left (y0 i hi) (y1 i hi)
  xy_nonneg := expect_nonneg fun i hi => mul_nonneg (x0 i hi) (y0 i hi)
  xy_le_x := expect_le_expect fun i hi => mul_le_of_le_one_right (x0 i hi) (y1 i hi)
  xy_le_y := expect_le_expect fun i hi => mul_le_of_le_one_left (y0 i hi) (x1 i hi)
  le_xy := expect_add_sub_one_le s x1 y1
  sq_le := by
    have bound := expect_mul_sq_le_sq_mul_sq s x y
    simp only [sq (x _), sq (y _)] at bound
    exact bound
  xt_nonneg := expect_nonneg fun i hi => mul_nonneg (x0 i hi) (t0 i hi)
  yt_nonneg := expect_nonneg fun i hi => mul_nonneg (y0 i hi) (t0 i hi)
  xt_le_x := expect_le_expect fun i hi => mul_le_of_le_one_right (x0 i hi) (t1 i hi)
  yt_le_y := expect_le_expect fun i hi => mul_le_of_le_one_right (y0 i hi) (t1 i hi)
  xt_le_t := expect_le_expect fun i hi => mul_le_of_le_one_left (t0 i hi) (x1 i hi)
  yt_le_t := expect_le_expect fun i hi => mul_le_of_le_one_left (t0 i hi) (y1 i hi)
  le_xt := expect_add_sub_one_le s x1 t1
  le_yt := expect_add_sub_one_le s y1 t1

end CubeMoments
