import GoodixSpi.Lib.SignedRange
import GoodixSpi.Chicago.Match.RefineMoments
import Mathlib.Tactic.LinearCombination

/-! The range of the 64-bit arithmetic of the refinement. Everything up to the determinant fits,
whatever the inliers are. The translation needs more than 64 bits from ten inliers on, one of the
slopes from forty-one on, and a small determinant can make any quotient too large. -/

namespace GoodixSpi.Chicago

open CArithmetic

def sensorLimitX : Int := 80 * 256
def sensorLimitY : Int := 64 * 256

def Point.InSensor (point : Point) : Prop :=
  (0 ≤ point.x ∧ point.x < sensorLimitX) ∧ 0 ≤ point.y ∧ point.y < sensorLimitY

instance (point : Point) : Decidable point.InSensor := inferInstanceAs (Decidable (_ ∧ _))

def PointPair.InSensor (pair : PointPair) : Prop := pair.source.InSensor ∧ pair.target.InSensor

instance (pair : PointPair) : Decidable pair.InSensor := inferInstanceAs (Decidable (_ ∧ _))

/-- The inliers, in the order of the pairs. -/
def activePairs (pairs : List PointPair) (inliers : List Bool) : List PointPair :=
  ((pairs.zip inliers).filter Prod.snd).map Prod.fst

/-! ### The values that the refinement forms -/

/-- The sum of one entry of the Gram matrix, and the addition before its shift. -/
def GramFits (active : List PointPair) (row column : Fin 3) : Prop :=
  SumFits 64 0 (gramTerms active row column) ∧
    FitsIn 64 ((gramTerms active row column).sum + 0x80)

def CrossFits (active : List PointPair) (row : Fin 3) (axis : Fin 2) : Prop :=
  SumFits 64 0 (crossTerms active row axis) ∧ FitsIn 64 ((crossTerms active row axis).sum + 0x80)

def CofactorsFit (gram : Fin 3 → Fin 3 → Int) : Prop :=
  ∀ products ∈ cofactorProducts gram,
    FitsIn 64 products.1 ∧ FitsIn 64 products.2 ∧ FitsIn 64 (products.1 - products.2)

def DeterminantFits (gram : Fin 3 → Fin 3 → Int) : Prop :=
  SumFits 64 0 (determinantTerms gram) ∧ FitsIn 64 ((determinantTerms gram).sum + 0x80)

def NumeratorFits (active : List PointPair) (coefficient : Fin 3) (axis : Fin 2) : Prop :=
  SumFits 64 0 (numeratorTerms active coefficient axis)

/-- `divide_nearest` before its result is narrowed. -/
def nearestQuotient (numerator denominator : Int) : Int :=
  let half := shiftRight denominator 1
  if numerator ≥ 0 then quotient (numerator + half) denominator
  else -quotient (half - numerator) denominator

/-- The addition of the half, and the quotient in the type it is narrowed to. -/
def CoefficientFits (active : List PointPair) (coefficient : Fin 3) (axis : Fin 2) : Prop :=
  let numerator := (numeratorTerms active coefficient axis).sum
  let denominator := gramDeterminant (gramEntry active)
  let half := shiftRight denominator 1
  FitsIn 64 (if numerator ≥ 0 then numerator + half else half - numerator) ∧
    FitsIn 32 (nearestQuotient numerator denominator)

/-- Nothing that the refinement forms for its coefficients is out of range. It forms none with a
zero determinant. -/
structure RefineFits (active : List PointPair) : Prop where
  gram : ∀ row column, GramFits active row column
  cross : ∀ row axis, CrossFits active row axis
  cofactors : CofactorsFit (gramEntry active)
  determinant : DeterminantFits (gramEntry active)
  coefficients : gramDeterminant (gramEntry active) ≠ 0 → ∀ coefficient axis,
    NumeratorFits active coefficient axis ∧ CoefficientFits active coefficient axis

lemma divideNearest_eq (numerator denominator : Int) :
    divideNearest numerator denominator = wrap32 (nearestQuotient numerator denominator) := by
  unfold divideNearest nearestQuotient
  dsimp only
  split
  · rfl
  · rfl

/-- A quotient that fits is stored as it is. -/
lemma RefineFits.refinedCoefficient_eq {active : List PointPair} (fits : RefineFits active)
    (regular : gramDeterminant (gramEntry active) ≠ 0) (coefficient : Fin 3) (axis : Fin 2) :
    refinedCoefficient active coefficient axis =
      nearestQuotient (numeratorTerms active coefficient axis).sum
        (gramDeterminant (gramEntry active)) := by
  have range := (fits.coefficients regular coefficient axis).2.2
  exact (divideNearest_eq _ _).trans (wrap32_of_range range.1 range.2)

/-- A refined transform comes from the inliers, and not from a zero determinant. -/
lemma refineGeometry_eq_some {pairs : List PointPair} {inliers : List Bool} {errorLimit : Int}
    {transform : Transform} (refined : refineGeometry pairs inliers errorLimit = some transform) :
    gramDeterminant (gramEntry (activePairs pairs inliers)) ≠ 0 ∧
      transform = refinedTransform (activePairs pairs inliers) := by
  unfold refineGeometry at refined
  obtain ⟨regular, better⟩ := Option.ite_none_left_eq_some.mp refined
  obtain ⟨-, same⟩ := Option.ite_none_left_eq_some.mp better
  exact ⟨regular, (Option.some.inj same).symm⟩

/-! ### The sums that fit -/

/-- Three terms whose running sums leave room for the addition before a shift. -/
lemma sumFits_of_runs {a b c : Int} {r : ℚ} (runs : CubeMoments.RunsWithin r (a : ℚ) b c)
    (room : r < 2 ^ 63 - 0x80) :
    SumFits 64 0 [a, b, c] ∧ FitsIn 64 ([a, b, c].sum + 0x80) := by
  have fits : ∀ {value : Int} {exact : ℚ}, |exact| ≤ r → exact = value →
      -(2 ^ 63 - 0x80) < value ∧ value < 2 ^ 63 - 0x80 := by
    intro value exact small same
    rw [same] at small
    obtain ⟨low, high⟩ := abs_lt.mp (small.trans_lt room)
    constructor
    · exact_mod_cast low
    · exact_mod_cast high
  have first := fits runs.first rfl
  have second := fits runs.second rfl
  have third := fits runs.third rfl
  have two := @fits (a + b) _ runs.two (by push_cast; rfl)
  have three := @fits (a + b + c) _ runs.three (by push_cast; rfl)
  simp only [SumFits, FitsIn, List.sum_cons, List.sum_nil, and_true]
  omega

section Terms

variable {active : List PointPair}

def goalOf (axis : Fin 2) (pair : PointPair) : Int := pair.goal.get axis

lemma numeratorTerms_horizontal (axis : Fin 2) : numeratorTerms active horizontalSlope axis =
    [(moment active sourceY sourceY * moment active unitEntry unitEntry -
        moment active sourceY unitEntry * moment active unitEntry sourceY) *
          moment active sourceX (goalOf axis),
      (moment active sourceX unitEntry * moment active unitEntry sourceY -
        moment active sourceX sourceY * moment active unitEntry unitEntry) *
          moment active sourceY (goalOf axis),
      (moment active sourceX sourceY * moment active sourceY unitEntry -
        moment active sourceX unitEntry * moment active sourceY sourceY) *
          moment active unitEntry (goalOf axis)] := rfl

lemma numeratorTerms_vertical (axis : Fin 2) : numeratorTerms active verticalSlope axis =
    [(moment active sourceY unitEntry * moment active unitEntry sourceX -
        moment active sourceY sourceX * moment active unitEntry unitEntry) *
          moment active sourceX (goalOf axis),
      (moment active sourceX sourceX * moment active unitEntry unitEntry -
        moment active sourceX unitEntry * moment active unitEntry sourceX) *
          moment active sourceY (goalOf axis),
      (moment active sourceX unitEntry * moment active sourceY sourceX -
        moment active sourceX sourceX * moment active sourceY unitEntry) *
          moment active unitEntry (goalOf axis)] := rfl

lemma numeratorTerms_translation (axis : Fin 2) : numeratorTerms active translation axis =
    [(moment active sourceY sourceX * moment active unitEntry sourceY -
        moment active sourceY sourceY * moment active unitEntry sourceX) *
          moment active sourceX (goalOf axis),
      (moment active sourceX sourceY * moment active unitEntry sourceX -
        moment active sourceX sourceX * moment active unitEntry sourceY) *
          moment active sourceY (goalOf axis),
      (moment active sourceX sourceX * moment active sourceY sourceY -
        moment active sourceX sourceY * moment active sourceY sourceX) *
          moment active unitEntry (goalOf axis)] := rfl

lemma determinantTerms_gramEntry : determinantTerms (gramEntry active) =
    [moment active sourceX sourceX *
        (moment active sourceY sourceY * moment active unitEntry unitEntry -
          moment active sourceY unitEntry * moment active unitEntry sourceY),
      moment active sourceX sourceY *
        (moment active sourceY unitEntry * moment active unitEntry sourceX -
          moment active sourceY sourceX * moment active unitEntry unitEntry),
      moment active sourceX unitEntry *
        (moment active sourceY sourceX * moment active unitEntry sourceY -
          moment active sourceY sourceY * moment active unitEntry sourceX)] := rfl

def goalBound (axis : Fin 2) : ℚ := if axis = horizontalAxis then 20479 else 16383

lemma le_goalBound (axis : Fin 2) : 16383 ≤ goalBound axis := by
  unfold goalBound
  split
  · norm_num
  · exact le_rfl

lemma goalBound_le (axis : Fin 2) : goalBound axis ≤ 20479 := by
  unfold goalBound
  split
  · exact le_rfl
  · norm_num

/-- The coordinates of the inliers are those of the sensor. -/
structure Bounded (active : List PointPair) : Prop where
  x : Within active sourceX 20479
  y : Within active sourceY 16383
  goal : ∀ axis, Within active (goalOf axis) (goalBound axis)

lemma cube_le {limit : ℕ} (few : active.length ≤ limit) : (active.length : ℚ) ^ 3 ≤ limit ^ 3 := by
  have cast : (active.length : ℚ) ≤ limit := by exact_mod_cast few
  exact pow_le_pow_left₀ (Nat.cast_nonneg _) cast 3

namespace Bounded

variable (bounded : Bounded active)

include bounded

def scaled (axis : Fin 2) : ScaledMoments active (goalOf axis) (goalBound axis) :=
  scaledMoments bounded.x bounded.y (bounded.goal axis) (le_goalBound axis)

lemma determinantFits (few : active.length ≤ 42) : DeterminantFits (gramEntry active) := by
  have runs := (scaledMoments bounded.x bounded.y bounded.x (by norm_num)).slope_runs (by norm_num)
  have cube := cube_le few
  unfold DeterminantFits
  rw [determinantTerms_gramEntry]
  apply sumFits_of_runs (r := (active.length : ℚ) ^ 3 * (16383 ^ 2 * 20479 * 20479 / 256) *
        (1 / 4 + 18 * (1 / 2 ^ 20)))
  · convert runs using 1
    · push_cast
      rw [moment_comm unitEntry sourceY]
      ring
    · push_cast
      rw [moment_comm unitEntry sourceX, moment_comm sourceY sourceX]
      ring
    · push_cast
      rw [moment_comm unitEntry sourceY, moment_comm sourceY sourceX, moment_comm unitEntry sourceX]
      ring
  · calc (active.length : ℚ) ^ 3 * (16383 ^ 2 * 20479 * 20479 / 256) *
          (1 / 4 + 18 * (1 / 2 ^ 20))
        ≤ (42 : ℕ) ^ 3 * (16383 ^ 2 * 20479 * 20479 / 256) * (1 / 4 + 18 * (1 / 2 ^ 20)) := by
          gcongr
      _ < 2 ^ 63 - 0x80 := by norm_num

lemma horizontalFits (few : active.length ≤ 42) (axis : Fin 2) :
    NumeratorFits active horizontalSlope axis := by
  have nonneg : 0 ≤ goalBound axis := by linarith [le_goalBound axis]
  have runs := (bounded.scaled axis).slope_runs nonneg
  have cube := cube_le few
  have bound := goalBound_le axis
  unfold NumeratorFits
  rw [numeratorTerms_horizontal]
  refine (sumFits_of_runs (r := (active.length : ℚ) ^ 3 *
    (16383 ^ 2 * 20479 * goalBound axis / 256) * (1 / 4 + 18 * (1 / 2 ^ 20))) ?_ ?_).1
  · convert runs using 1
    · push_cast
      rw [moment_comm unitEntry sourceY]
      ring
    · push_cast
      rw [moment_comm unitEntry sourceY]
    · push_cast
      rfl
  · calc (active.length : ℚ) ^ 3 * (16383 ^ 2 * 20479 * goalBound axis / 256) *
          (1 / 4 + 18 * (1 / 2 ^ 20))
        ≤ (42 : ℕ) ^ 3 * (16383 ^ 2 * 20479 * 20479 / 256) * (1 / 4 + 18 * (1 / 2 ^ 20)) := by
          gcongr
      _ < 2 ^ 63 - 0x80 := by norm_num

/-- The horizontal goal is the larger one, and leaves room for forty inliers only. -/
lemma verticalFits {limit : ℕ} (few : active.length ≤ limit) (axis : Fin 2)
    (room : (limit : ℚ) ^ 3 * (16383 * 20479 ^ 2 * goalBound axis / 256) *
      (1 / 4 + 18 * (1 / 2 ^ 20)) < 2 ^ 63 - 0x80) :
    NumeratorFits active verticalSlope axis := by
  have nonneg : 0 ≤ goalBound axis := by linarith [le_goalBound axis]
  have runs := (bounded.scaled axis).steep_runs nonneg
  have cube := cube_le few
  unfold NumeratorFits
  rw [numeratorTerms_vertical]
  refine (sumFits_of_runs (r := (active.length : ℚ) ^ 3 *
    (16383 * 20479 ^ 2 * goalBound axis / 256) * (1 / 4 + 18 * (1 / 2 ^ 20))) ?_ ?_).1
  · convert runs using 1
    · push_cast
      rw [moment_comm unitEntry sourceX, moment_comm sourceY sourceX]
      ring
    · push_cast
      rw [moment_comm unitEntry sourceX]
      ring
    · push_cast
      rw [moment_comm sourceY sourceX]
      ring
  · refine lt_of_le_of_lt ?_ room
    gcongr

lemma translationFits (few : active.length ≤ 9) (axis : Fin 2) :
    NumeratorFits active translation axis := by
  have nonneg : 0 ≤ goalBound axis := by linarith [le_goalBound axis]
  have runs := (bounded.scaled axis).translation_runs nonneg
  have cube := cube_le few
  have bound := goalBound_le axis
  unfold NumeratorFits
  rw [numeratorTerms_translation]
  refine (sumFits_of_runs (r := (active.length : ℚ) ^ 3 *
    (16383 ^ 2 * 20479 ^ 2 * goalBound axis / 256 ^ 2) * (1 / 3 + 18 * (1 / 2 ^ 20))) ?_ ?_).1
  · convert runs using 1
    · push_cast
      rw [moment_comm unitEntry sourceX, moment_comm unitEntry sourceY, moment_comm sourceY sourceX]
    · push_cast
      rw [moment_comm unitEntry sourceX, moment_comm unitEntry sourceY]
    · push_cast
      rw [moment_comm sourceY sourceX]
      ring
  · calc (active.length : ℚ) ^ 3 * (16383 ^ 2 * 20479 ^ 2 * goalBound axis / 256 ^ 2) *
          (1 / 3 + 18 * (1 / 2 ^ 20))
        ≤ (9 : ℕ) ^ 3 * (16383 ^ 2 * 20479 ^ 2 * 20479 / 256 ^ 2) *
            (1 / 3 + 18 * (1 / 2 ^ 20)) := by gcongr
      _ < 2 ^ 63 - 0x80 := by norm_num

/-- Every factor of the matrices is in the range of the larger coordinate. -/
lemma design_range {pair : PointPair} (listed : pair ∈ active) (row : Fin 3) :
    0 ≤ pair.design.get row ∧ pair.design.get row ≤ 20479 := by
  have x := bounded.x pair listed
  have y := bounded.y pair listed
  match row with
  | 0 => exact ⟨x.1, by exact_mod_cast x.2⟩
  | 1 =>
    have below : pair.source.y ≤ 16383 := by exact_mod_cast y.2
    exact ⟨y.1, below.trans (by decide)⟩
  | 2 => exact ⟨(by decide : (0 : Int) ≤ 0x100), (by decide : (0x100 : Int) ≤ 20479)⟩

lemma goal_range {pair : PointPair} (listed : pair ∈ active) (axis : Fin 2) :
    0 ≤ pair.goal.get axis ∧ pair.goal.get axis ≤ 20479 := by
  have goal := bounded.goal axis pair listed
  have below : (goalOf axis pair : ℚ) ≤ (20479 : ℤ) := by
    exact_mod_cast goal.2.trans (goalBound_le axis)
  exact ⟨goal.1, by exact_mod_cast below⟩

lemma gramTerms_range (row column : Fin 3) :
    ∀ term ∈ gramTerms active row column, 0 ≤ term ∧ term ≤ 20479 * 20479 := by
  intro term listed
  obtain ⟨pair, among, rfl⟩ := List.mem_map.mp listed
  have first := bounded.design_range among row
  have second := bounded.design_range among column
  exact ⟨mul_nonneg first.1 second.1, mul_le_mul first.2 second.2 second.1 (by decide)⟩

lemma crossTerms_range (row : Fin 3) (axis : Fin 2) :
    ∀ term ∈ crossTerms active row axis, 0 ≤ term ∧ term ≤ 20479 * 20479 := by
  intro term listed
  obtain ⟨pair, among, rfl⟩ := List.mem_map.mp listed
  have first := bounded.design_range among row
  have second := bounded.goal_range among axis
  exact ⟨mul_nonneg first.1 second.1, mul_le_mul first.2 second.2 second.1 (by decide)⟩

omit bounded in
lemma length_gramTerms (row column : Fin 3) :
    (gramTerms active row column).length = active.length := List.length_map _

omit bounded in
lemma length_crossTerms (row : Fin 3) (axis : Fin 2) :
    (crossTerms active row axis).length = active.length := List.length_map _

omit bounded in
/-- A sum over the inliers, and the addition before its shift. -/
lemma sumFits_of_range {terms : List Int} (few : terms.length ≤ 42)
    (range : ∀ term ∈ terms, 0 ≤ term ∧ term ≤ 20479 * 20479) :
    SumFits 64 0 terms ∧ FitsIn 64 (terms.sum + 0x80) := by
  have sum := sum_mem_of_nonneg range
  constructor
  · exact sumFits_of_nonneg range le_rfl (by norm_num; omega)
  · unfold FitsIn
    norm_num
    omega

lemma gramFits (few : active.length ≤ 42) (row column : Fin 3) : GramFits active row column :=
  sumFits_of_range ((length_gramTerms row column).trans_le few) (bounded.gramTerms_range row column)

lemma crossFits (few : active.length ≤ 42) (row : Fin 3) (axis : Fin 2) :
    CrossFits active row axis :=
  sumFits_of_range ((length_crossTerms row axis).trans_le few) (bounded.crossTerms_range row axis)

lemma gramEntry_range (few : active.length ≤ 42) (row column : Fin 3) :
    0 ≤ gramEntry active row column ∧ gramEntry active row column ≤ 2 ^ 27 := by
  have sum := sum_mem_of_nonneg (bounded.gramTerms_range row column)
  have length := (length_gramTerms row column).trans_le few
  have shifted : gramEntry active row column =
      shiftRight ((gramTerms active row column).sum + 0x80) 8 := rfl
  rw [shifted, shiftRight]
  omega

lemma cofactorsFit (few : active.length ≤ 42) : CofactorsFit (gramEntry active) := by
  have small : ∀ i j k l i' j' k' l' : Fin 3,
      FitsIn 64 (gramEntry active i j * gramEntry active k l) ∧
        FitsIn 64 (gramEntry active i' j' * gramEntry active k' l') ∧
        FitsIn 64 (gramEntry active i j * gramEntry active k l -
          gramEntry active i' j' * gramEntry active k' l') := by
    intro i j k l i' j' k' l'
    have product : ∀ i j k l : Fin 3, 0 ≤ gramEntry active i j * gramEntry active k l ∧
        gramEntry active i j * gramEntry active k l ≤ 2 ^ 27 * 2 ^ 27 := by
      intro i j k l
      have first := bounded.gramEntry_range few i j
      have second := bounded.gramEntry_range few k l
      exact ⟨mul_nonneg first.1 second.1, mul_le_mul first.2 second.2 second.1 (by decide)⟩
    have first := product i j k l
    have second := product i' j' k' l'
    unfold FitsIn
    omega
  intro products listed
  simp only [cofactorProducts, List.mem_cons, List.not_mem_nil, or_false] at listed
  rcases listed with rfl | rfl | rfl | rfl | rfl | rfl | rfl | rfl | rfl
  all_goals exact small _ _ _ _ _ _ _ _

end Bounded

end Terms

/-! ### The inliers of a sensor -/

lemma bounded_of_inSensor {active : List PointPair} (inside : ∀ pair ∈ active, pair.InSensor) :
    Bounded active := by
  have limits : ∀ {point : Point}, point.InSensor →
      (0 ≤ point.x ∧ (point.x : ℚ) ≤ 20479) ∧ 0 ≤ point.y ∧ (point.y : ℚ) ≤ 16383 := by
    rintro point ⟨⟨x0, x1⟩, y0, y1⟩
    have x1 : point.x ≤ 20479 := Int.le_of_lt_add_one x1
    have y1 : point.y ≤ 16383 := Int.le_of_lt_add_one y1
    exact ⟨⟨x0, by exact_mod_cast x1⟩, y0, by exact_mod_cast y1⟩
  refine ⟨fun pair listed => (limits (inside pair listed).1).1,
    fun pair listed => (limits (inside pair listed).1).2, fun axis pair listed => ?_⟩
  have target := limits (inside pair listed).2
  match axis with
  | 0 => exact target.1
  | 1 => exact target.2

lemma mem_activePairs {pairs : List PointPair} {inliers : List Bool} {pair : PointPair}
    (listed : pair ∈ activePairs pairs inliers) : pair ∈ pairs := by
  obtain ⟨⟨first, mark⟩, among, rfl⟩ := List.mem_map.mp listed
  exact (List.of_mem_zip (List.mem_filter.mp among).1).1

lemma length_activePairs (pairs : List PointPair) (inliers : List Bool) :
    (activePairs pairs inliers).length ≤ pairs.length := by
  rw [activePairs, List.length_map]
  calc ((pairs.zip inliers).filter Prod.snd).length ≤ (pairs.zip inliers).length :=
        List.length_filter_le _ _
    _ ≤ pairs.length := by
        rw [List.length_zip]
        exact Nat.min_le_left _ _

/-- How far a rounded product is from the product. -/
lemma moment_singleton (pair : PointPair) (f g : PointPair → Int) :
    ∃ error, 256 * moment [pair] f g = f pair * g pair + error ∧ -127 ≤ error ∧ error ≤ 128 := by
  refine ⟨256 * moment [pair] f g - f pair * g pair, by ring, ?_⟩
  have sum : ([pair].map fun pair => f pair * g pair).sum = f pair * g pair := List.sum_singleton
  unfold moment shiftRight
  rw [sum]
  omega

/-- One inlier leaves a determinant that rounds to zero. -/
lemma gramDeterminant_singleton (pair : PointPair) : gramDeterminant (gramEntry [pair]) = 0 := by
  obtain ⟨xError, xx, xLow, xHigh⟩ := moment_singleton pair sourceX sourceX
  obtain ⟨error, xy, low, high⟩ := moment_singleton pair sourceX sourceY
  obtain ⟨yError, yy, yLow, yHigh⟩ := moment_singleton pair sourceY sourceY
  have unit : ∀ f, moment [pair] f unitEntry = f pair := by
    intro f
    have sum : ([pair].map fun pair => f pair * unitEntry pair).sum = f pair * 0x100 :=
      List.sum_singleton
    unfold moment shiftRight
    rw [sum]
    omega
  have exact : 256 * (determinantTerms (gramEntry [pair])).sum = xError * yError - error ^ 2 := by
    rw [determinantTerms_gramEntry, moment_comm unitEntry sourceY, moment_comm unitEntry sourceX,
      moment_comm sourceY sourceX, unit, unit, unit]
    simp only [List.sum_cons, List.sum_nil, unitEntry]
    linear_combination (256 * moment [pair] sourceY sourceY - sourceY pair * sourceY pair) * xx +
      xError * yy - (256 * moment [pair] sourceX sourceY - sourceX pair * sourceY pair + error) * xy
  have above : xError * yError ≤ 128 * 128 := by nlinarith
  have below : -(128 * 128) ≤ xError * yError := by nlinarith
  have square : error ^ 2 ≤ 128 ^ 2 := by nlinarith
  have positive := sq_nonneg error
  have shifted : gramDeterminant (gramEntry [pair]) =
      shiftRight ((determinantTerms (gramEntry [pair])).sum + 0x80) 8 := by
    unfold gramDeterminant determinantTerms
    simp only [List.sum_cons, List.sum_nil, add_zero, add_assoc]
  rw [shifted, shiftRight]
  omega

/-! ### Inliers that overflow -/

instance (active : List PointPair) (coefficient : Fin 3) (axis : Fin 2) :
    Decidable (NumeratorFits active coefficient axis) := inferInstanceAs (Decidable (SumFits _ _ _))

instance (active : List PointPair) (coefficient : Fin 3) (axis : Fin 2) :
    Decidable (CoefficientFits active coefficient axis) := inferInstanceAs (Decidable (_ ∧ _))

def pairAt (x y goalX goalY : Int) : PointPair := ⟨⟨x, y⟩, ⟨goalX, goalY⟩, 0, 0⟩

def twoPlaces (first second : Nat) (p q : PointPair) : List PointPair :=
  List.replicate first p ++ List.replicate second q

/-- Ten inliers at three corners of the sensor, all carried to one. -/
def tenCorners : List PointPair :=
  List.replicate 4 (pairAt 20479 16383 20479 0) ++ List.replicate 3 (pairAt 20479 0 20479 0) ++
    List.replicate 3 (pairAt 0 16383 20479 0)

/-- Up to nine inliers at two places, whose determinant is small, and not zero because of the
rounding; from ten on three corners. -/
def overflowingPairs : Nat → List PointPair
  | 2 => twoPlaces 1 1 (pairAt 20424 15616 7649 10334) (pairAt 78 15488 4133 5708)
  | 3 => twoPlaces 2 1 (pairAt 20363 15552 10877 544) (pairAt 250 15680 15250 12386)
  | 4 => twoPlaces 1 3 (pairAt 20136 16000 16438 2507) (pairAt 388 16257 8624 13093)
  | 5 => twoPlaces 3 2 (pairAt 20232 15552 20425 279) (pairAt 538 15680 4226 12750)
  | 6 => twoPlaces 1 5 (pairAt 20050 16048 18971 9543) (pairAt 326 15920 20065 13163)
  | 7 => twoPlaces 1 6 (pairAt 20130 15488 8753 13390) (pairAt 531 15360 10641 6437)
  | 8 => twoPlaces 1 7 (pairAt 20250 16001 20445 10818) (pairAt 139 15616 14086 12454)
  | 9 => twoPlaces 6 3 (pairAt 20053 15712 12193 512) (pairAt 598 15840 2226 1756)
  | count => tenCorners ++ List.replicate (count - 10) (pairAt 0 0 0 0)

/-- A numerator or a quotient is out of range. -/
def Overflows (active : List PointPair) : Prop :=
  gramDeterminant (gramEntry active) ≠ 0 ∧
    ∃ axis, ¬(NumeratorFits active translation axis ∧ CoefficientFits active translation axis)

instance (active : List PointPair) : Decidable (Overflows active) :=
  inferInstanceAs (Decidable (_ ∧ _))

lemma Overflows.not_refineFits {active : List PointPair} (overflows : Overflows active) :
    ¬RefineFits active := by
  rintro ⟨-, -, -, -, coefficients⟩
  obtain ⟨regular, axis, out⟩ := overflows
  exact out (coefficients regular translation axis)

lemma overflowingPairs_spec : ∀ count ∈ List.range' 2 41,
    (∀ pair ∈ overflowingPairs count, pair.InSensor) ∧ (overflowingPairs count).length = count ∧
      Overflows (overflowingPairs count) := by
  decide +kernel

lemma activePairs_replicate (pairs : List PointPair) :
    activePairs pairs (List.replicate pairs.length true) = pairs := by
  unfold activePairs
  induction pairs with
  | nil => rfl
  | cons pair rest ih =>
    rw [List.length_cons, List.replicate_succ, List.zip_cons_cons, List.filter_cons_of_pos rfl,
      List.map_cons, ih]

/-! ### When everything fits -/

lemma refineFits_iff {active : List PointPair} (few : active.length ≤ 42)
    (inside : ∀ pair ∈ active, pair.InSensor) :
    RefineFits active ↔ gramDeterminant (gramEntry active) = 0 ∨
      ((9 < active.length → ∀ axis, NumeratorFits active translation axis) ∧
        (40 < active.length → NumeratorFits active verticalSlope horizontalAxis) ∧
        ∀ coefficient axis, CoefficientFits active coefficient axis) := by
  have bounded := bounded_of_inSensor inside
  constructor
  · rintro ⟨-, -, -, -, coefficients⟩
    by_cases singular : gramDeterminant (gramEntry active) = 0
    · exact .inl singular
    · refine .inr ⟨fun _ axis => ?_, fun _ => ?_, fun coefficient axis => ?_⟩
      · exact (coefficients singular translation axis).1
      · exact (coefficients singular verticalSlope horizontalAxis).1
      · exact (coefficients singular coefficient axis).2
  · intro condition
    refine ⟨bounded.gramFits few, bounded.crossFits few, bounded.cofactorsFit few,
      bounded.determinantFits few, fun regular coefficient axis => ?_⟩
    rcases condition with singular | ⟨far, many, quotients⟩
    · exact absurd singular regular
    · refine ⟨?_, quotients coefficient axis⟩
      match coefficient with
      | 0 => exact bounded.horizontalFits few axis
      | 1 =>
        by_cases horizontal : axis = horizontalAxis
        · subst horizontal
          rcases Nat.lt_or_ge 40 active.length with more | less
          · exact many more
          · exact bounded.verticalFits less horizontalAxis (by norm_num [goalBound])
        · exact bounded.verticalFits few axis (by norm_num [goalBound, horizontal])
      | 2 =>
        rcases Nat.lt_or_ge 9 active.length with more | less
        · exact far more axis
        · exact bounded.translationFits less axis

lemma gramDeterminant_eq_zero {active : List PointPair} (few : active.length ≤ 1) :
    gramDeterminant (gramEntry active) = 0 := by
  match active with
  | [] => rfl
  | [pair] => exact gramDeterminant_singleton pair
  | _ :: _ :: _ => simp at few

/-- At most one inlier is carried without an overflow wherever it is, and every larger number
overflows somewhere. A given set of inliers does not overflow exactly if its determinant is zero,
or the translation's sums fit when there are more than nine of them, the horizontal one of the
vertical slope when there are more than forty, and the quotients. -/
theorem refine_fits_iff (count : Nat) (few : count ≤ matchGeometryLimit) :
    ((∀ pairs inliers, pairs.length ≤ matchGeometryLimit → (∀ pair ∈ pairs, pair.InSensor) →
        (activePairs pairs inliers).length = count → RefineFits (activePairs pairs inliers)) ↔
      count ≤ 1) ∧
    ∀ pairs inliers, pairs.length ≤ matchGeometryLimit → (∀ pair ∈ pairs, pair.InSensor) →
      (activePairs pairs inliers).length = count →
      (RefineFits (activePairs pairs inliers) ↔
        gramDeterminant (gramEntry (activePairs pairs inliers)) = 0 ∨
          ((9 < count → ∀ axis, NumeratorFits (activePairs pairs inliers) translation axis) ∧
            (40 < count →
              NumeratorFits (activePairs pairs inliers) verticalSlope horizontalAxis) ∧
            ∀ coefficient axis, CoefficientFits (activePairs pairs inliers) coefficient axis)) := by
  have each : ∀ pairs inliers, pairs.length ≤ matchGeometryLimit →
      (∀ pair ∈ pairs, pair.InSensor) → (activePairs pairs inliers).length = count →
      (RefineFits (activePairs pairs inliers) ↔
        gramDeterminant (gramEntry (activePairs pairs inliers)) = 0 ∨
          ((9 < count → ∀ axis, NumeratorFits (activePairs pairs inliers) translation axis) ∧
            (40 < count →
              NumeratorFits (activePairs pairs inliers) verticalSlope horizontalAxis) ∧
            ∀ coefficient axis,
              CoefficientFits (activePairs pairs inliers) coefficient axis)) := by
    rintro pairs inliers small inside rfl
    exact refineFits_iff ((length_activePairs pairs inliers).trans small)
      fun pair listed => inside pair (mem_activePairs listed)
  refine ⟨⟨fun all => ?_, fun one pairs inliers small inside length => ?_⟩, each⟩
  · by_contra two
    obtain ⟨inside, length, overflows⟩ := overflowingPairs_spec count
      (List.mem_range'_1.mpr ⟨not_le.mp two, Nat.lt_succ_of_le few⟩)
    have fits := all (overflowingPairs count) (List.replicate (overflowingPairs count).length true)
      (length.trans_le few) inside
    rw [activePairs_replicate] at fits
    exact overflows.not_refineFits (fits length)
  · exact (each pairs inliers small inside length).mpr
      (.inl (gramDeterminant_eq_zero (length.trans_le one)))

/-- Three corners that stay where they are. -/
def threeCorners : List PointPair :=
  [pairAt 0 0 0 0, pairAt 0x4000 0 0x4000 0, pairAt 0 0x3000 0 0x3000]

theorem refine_fits_corners : RefineFits (activePairs threeCorners [true, true, true]) :=
  ((refine_fits_iff 3 (by decide)).2 threeCorners [true, true, true] (by decide) (by decide)
    rfl).mpr (.inr ⟨by decide, by decide, by decide +kernel⟩)

/-- The translation's product needs more than 64 bits with ten inliers, and its quotient more than
32 with two. -/
theorem refine_overflows :
    ((∀ pair ∈ tenCorners, pair.InSensor) ∧
      ¬RefineFits (activePairs tenCorners (List.replicate 10 true))) ∧
    (∀ pair ∈ overflowingPairs 2, pair.InSensor) ∧
      ¬RefineFits (activePairs (overflowingPairs 2) [true, true]) := by
  have two := overflowingPairs_spec 2 (by decide)
  have ten := overflowingPairs_spec 10 (by decide)
  exact ⟨⟨ten.1, ten.2.2.not_refineFits⟩, two.1, two.2.2.not_refineFits⟩

end GoodixSpi.Chicago
