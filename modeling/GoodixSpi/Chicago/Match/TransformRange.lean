import GoodixSpi.Lib.SignedRange
import GoodixSpi.Chicago.Match.Geometry
import Mathlib.Tactic.Linarith
import Mathlib.Tactic.NormNum
import Mathlib.Tactic.Ring

/-! The values that the estimation forms for points with 16-bit coordinates: distances, the
transform through three pairs, and the test of its scale. The transform always fits; the test
squares its trace. -/

namespace GoodixSpi.Chicago

open CArithmetic

/-! ### Distances -/

/-- What `point_distance_quarter` forms. -/
def quarterValues (a b : Point) : List Int :=
  let dx := a.x - b.x
  let dy := a.y - b.y
  [dx, dy, dx * dx, dy * dy, pointDistanceQuarter a b]

def QuarterFits (a b : Point) : Prop := ∀ value ∈ quarterValues a b, FitsIn 32 value

/-- What `triangle_edge_is_compatible` forms; the second comparison needs the first one. -/
def edgeValues (sourceDistance targetDistance : Int) : List Int :=
  [sourceDistance * 5, targetDistance * 6] ++
    if sourceDistance * 5 ≤ targetDistance * 6 then [sourceDistance * 6, targetDistance * 5] else []

def EdgeFits (sourceDistance targetDistance : Int) : Prop :=
  ∀ value ∈ edgeValues sourceDistance targetDistance, FitsIn 32 value

instance (a b : Point) : Decidable (QuarterFits a b) := inferInstanceAs (Decidable (∀ _ ∈ _, _))

instance (sourceDistance targetDistance : Int) :
    Decidable (EdgeFits sourceDistance targetDistance) := inferInstanceAs (Decidable (∀ _ ∈ _, _))

/-- Neither coordinate differs by more than the root of the largest `gint`. -/
def Close (a b : Point) : Prop := |a.x - b.x| ≤ 46340 ∧ |a.y - b.y| ≤ 46340

/-! ### The transform through three pairs -/

/-- One of the two linear systems. -/
def solveValues (p q r s u v : Int) : List Int :=
  let denominator := p * s - r * q
  [p, q, r, s, p * s, r * q, denominator] ++
    if denominator = 0 then []
    else
      [u, v, u * s, v * q, u * s - v * q, quotient (u * s - v * q) denominator,
        u * r, v * p, u * r - v * p, -denominator, quotient (u * r - v * p) (-denominator)]

/-- One of the two translations before its shift. -/
def offsetValues (goal b y a x : Int) : List Int := [b * y, goal - b * y, a * x, goal - b * y - a * x]

/-- What `affine_from_three_points` forms in 64 bits. -/
def affineValues (s₀ s₁ s₂ t₀ t₁ t₂ : Point) : List Int :=
  let dx21 := s₁.x - s₀.x
  let dy21 := s₁.y - s₀.y
  let dx31 := s₂.x - s₀.x
  let dy31 := s₂.y - s₀.y
  let yDenominator := dx21 * dy31 - dx31 * dy21
  let tx1 := t₀.x * 0x400
  let tx2 := t₁.x * 0x400
  let tx3 := t₂.x * 0x400
  let ty1 := t₀.y * 0x400
  let ty2 := t₁.y * 0x400
  let ty3 := t₂.y * 0x400
  let c := if yDenominator = 0 then maxInt32
    else wrap32 (quotient ((ty2 - ty1) * dy31 - (ty3 - ty1) * dy21) yDenominator)
  let d := if yDenominator = 0 then maxInt32
    else wrap32 (quotient ((ty2 - ty1) * dx31 - (ty3 - ty1) * dx21) (-yDenominator))
  let x12 := s₀.x - s₁.x
  let y12 := s₀.y - s₁.y
  let x23 := s₁.x - s₂.x
  let y23 := s₁.y - s₂.y
  let xDenominator := x12 * y23 - x23 * y12
  let a := if xDenominator = 0 then maxInt32
    else wrap32 (quotient ((tx1 - tx2) * y23 - (tx2 - tx3) * y12) xDenominator)
  let b := if xDenominator = 0 then maxInt32
    else wrap32 (quotient ((tx1 - tx2) * x23 - (tx2 - tx3) * x12) (-xDenominator))
  [tx1, tx2, tx3, ty1, ty2, ty3] ++
    solveValues dx21 dy21 dx31 dy31 (ty2 - ty1) (ty3 - ty1) ++
    solveValues x12 y12 x23 y23 (tx1 - tx2) (tx2 - tx3) ++
    offsetValues tx1 b s₀.y a s₀.x ++ offsetValues ty3 d s₂.y c s₂.x

/-! ### The test of the scale -/

def LinearPart.trace (linear : LinearPart) : Int :=
  (linear.a * linear.a + linear.b * linear.b) + (linear.c * linear.c + linear.d * linear.d)

/-- What `transform_is_rigid_and_scaled` forms in 64 bits. The last two squares are formed only
behind the other tests. -/
def rigidValues (linear : LinearPart) : List Int :=
  let a := linear.a
  let b := linear.b
  let c := linear.c
  let d := linear.d
  let m00 := a * a + b * b
  let m01 := a * c + b * d
  let m11 := c * c + d * d
  let trace := m00 + m11
  let discriminant := trace * trace + 4 * (m01 * m01 - m11 * m00)
  let upperDelta := 0xa3 * 0x200 - trace
  let lowerDelta := 0x191 * 0x200 - trace
  [a * a, b * b, m00, a * c, b * d, m01, c * c, d * d, m11, trace, trace * trace, m01 * m01,
    m11 * m00, m01 * m01 - m11 * m00, 4 * (m01 * m01 - m11 * m00), discriminant, upperDelta,
    lowerDelta] ++
    if (a - d).natAbs < 0x32 ∧ (c + b).natAbs < 0x32 ∧ a.natAbs < 0x12c ∧ b.natAbs < 0x12c ∧
        c.natAbs < 0x12c ∧ d.natAbs < 0x12c ∧ discriminant ≥ 0 ∧ trace ≥ 0 ∧ upperDelta ≤ 0 ∧
        lowerDelta ≥ 0 then
      [upperDelta * upperDelta, lowerDelta * lowerDelta]
    else []

/-- The differences of which it takes the absolute value in 32 bits, and their negatives. -/
def rigidDifferences (linear : LinearPart) : List Int :=
  [linear.a - linear.d, -(linear.a - linear.d), linear.c + linear.b, -(linear.c + linear.b),
    -linear.a, -linear.b, -linear.c, -linear.d]

def RigidFits (linear : LinearPart) : Prop :=
  (∀ value ∈ rigidValues linear, FitsIn 64 value) ∧
    ∀ value ∈ rigidDifferences linear, FitsIn 32 value

instance (linear : LinearPart) : Decidable (RigidFits linear) :=
  inferInstanceAs (Decidable ((∀ _ ∈ _, _) ∧ ∀ _ ∈ _, _))

/-- The coefficients that are left of 32 bits after the shift. -/
structure LinearPart.Small (linear : LinearPart) : Prop where
  a : |linear.a| ≤ 2 ^ 29
  b : |linear.b| ≤ 2 ^ 29
  c : |linear.c| ≤ 2 ^ 29
  d : |linear.d| ≤ 2 ^ 29

/-- The square of the trace bounds what is formed from two products. -/
lemma products_le_trace (a b c d : Int) :
    let m00 := a * a + b * b
    let m01 := a * c + b * d
    let m11 := c * c + d * d
    0 ≤ m01 * m01 ∧ m01 * m01 ≤ m11 * m00 ∧ 4 * (m11 * m00) ≤ (m00 + m11) * (m00 + m11) := by
  have lagrange := mul_self_nonneg (a * d - b * c)
  have mean := mul_self_nonneg (a * a + b * b - (c * c + d * d))
  refine ⟨mul_self_nonneg _, ?_, ?_⟩
  · linarith
  · linarith

/-- The square of the trace is the only value that can be out of range. -/
theorem rigidFits_iff {linear : LinearPart} (small : linear.Small) :
    RigidFits linear ↔ linear.trace ≤ 3037000499 := by
  obtain ⟨a, b, c, d⟩ := linear
  obtain ⟨ha, hb, hc, hd⟩ := small
  dsimp only at ha hb hc hd
  have aa := abs_mul_le ha ha
  have bb := abs_mul_le hb hb
  have cc := abs_mul_le hc hc
  have dd := abs_mul_le hd hd
  have ac := abs_mul_le ha hc
  have bd := abs_mul_le hb hd
  have a0 := mul_self_nonneg a
  have b0 := mul_self_nonneg b
  have c0 := mul_self_nonneg c
  have d0 := mul_self_nonneg d
  rw [abs_le] at ha hb hc hd aa bb cc dd ac bd
  constructor
  · rintro ⟨wide, -⟩
    have square := wide ((a * a + b * b + (c * c + d * d)) * (a * a + b * b + (c * c + d * d)))
      (by simp [rigidValues])
    by_contra large
    have large : 3037000500 ≤ a * a + b * b + (c * c + d * d) := not_le.mp large
    have past := mul_le_mul large large (by decide) (by omega)
    have under := square.2
    norm_num at past under
    omega
  · intro bounded
    have bounded : a * a + b * b + (c * c + d * d) ≤ 3037000499 := bounded
    obtain ⟨products0, products, mean⟩ := products_le_trace a b c d
    have square := mul_le_mul bounded bounded (by omega) (by decide)
    constructor
    · intro value listed
      simp only [rigidValues, List.mem_append, List.mem_cons, List.not_mem_nil, or_false] at listed
      rcases listed with plain | guarded
      · rcases plain with rfl | rfl | rfl | rfl | rfl | rfl | rfl | rfl | rfl | rfl | rfl | rfl |
          rfl | rfl | rfl | rfl | rfl | rfl
        all_goals
          rw [fitsIn_64]
          omega
      · split at guarded
        · rename_i guard
          obtain ⟨-, -, -, -, -, -, -, -, upper, lower⟩ := guard
          have bound : ∀ {delta : Int}, |delta| ≤ 2 ^ 18 → FitsIn 64 (delta * delta) := by
            intro delta near
            exact fitsIn_of_abs_lt ((abs_mul_le near near).trans_lt (by norm_num))
          simp only [List.mem_cons, List.not_mem_nil, or_false] at guarded
          rcases guarded with rfl | rfl
          · exact bound (abs_le.mpr ⟨by omega, by omega⟩)
          · exact bound (abs_le.mpr ⟨by omega, by omega⟩)
        · exact absurd guarded List.not_mem_nil
    · intro value listed
      simp only [rigidDifferences, List.mem_cons, List.not_mem_nil, or_false] at listed
      rcases listed with rfl | rfl | rfl | rfl | rfl | rfl | rfl | rfl
      all_goals
        rw [fitsIn_32]
        omega

/-! ### Points with 16-bit coordinates -/

/-- The coordinates of a record as `guint16`. -/
def Point.Word (point : Point) : Prop :=
  (0 ≤ point.x ∧ point.x < 2 ^ 16) ∧ 0 ≤ point.y ∧ point.y < 2 ^ 16

lemma FeatureRecord.point_word (record : FeatureRecord) : record.point.Word := by
  have x := record.refinedX.toUInt16.toNat_lt
  have y := record.refinedY.toUInt16.toNat_lt
  unfold Point.Word FeatureRecord.point FeatureRecord.unsignedX FeatureRecord.unsignedY
  dsimp only
  omega

lemma abs_le_of_mul_self_lt {delta : Int} (small : delta * delta < 2 ^ 31) : |delta| ≤ 46340 := by
  by_contra large
  have large : 46341 ≤ |delta| := Int.not_le.mp large
  have past := mul_le_mul large large (by decide) (abs_nonneg delta)
  rw [abs_mul_abs_self] at past
  omega

/-- Two points of 16 bits. -/
lemma quarterFits_iff {a b : Point} (ha : a.Word) (hb : b.Word) : QuarterFits a b ↔ Close a b := by
  obtain ⟨⟨ax, ax'⟩, ay, ay'⟩ := ha
  obtain ⟨⟨bx, bx'⟩, by', by''⟩ := hb
  constructor
  · intro fits
    have x := (fits ((a.x - b.x) * (a.x - b.x)) (by simp [quarterValues])).2
    have y := (fits ((a.y - b.y) * (a.y - b.y)) (by simp [quarterValues])).2
    exact ⟨abs_le_of_mul_self_lt x, abs_le_of_mul_self_lt y⟩
  · rintro ⟨x, y⟩ value listed
    have xx := abs_mul_le x x
    have yy := abs_mul_le y y
    have x0 := mul_self_nonneg (a.x - b.x)
    have y0 := mul_self_nonneg (a.y - b.y)
    rw [abs_le] at x y xx yy
    simp only [quarterValues, List.mem_cons, List.not_mem_nil, or_false] at listed
    rcases listed with rfl | rfl | rfl | rfl | rfl
    all_goals
      rw [fitsIn_32]
    case inr.inr.inr.inr =>
      unfold pointDistanceQuarter shiftRight
      dsimp only
      omega
    all_goals omega

lemma solveValues_fit {p q r s u v : Int} (hp : |p| ≤ 2 ^ 16) (hq : |q| ≤ 2 ^ 16)
    (hr : |r| ≤ 2 ^ 16) (hs : |s| ≤ 2 ^ 16) (hu : |u| ≤ 2 ^ 27) (hv : |v| ≤ 2 ^ 27) :
    ∀ value ∈ solveValues p q r s u v, FitsIn 64 value := by
  have ps := abs_mul_le hp hs
  have rq := abs_mul_le hr hq
  have us := abs_mul_le hu hs
  have vq := abs_mul_le hv hq
  have ur := abs_mul_le hu hr
  have vp := abs_mul_le hv hp
  have first := abs_quotient_le (u * s - v * q) (p * s - r * q)
  have second := abs_quotient_le (u * r - v * p) (-(p * s - r * q))
  have top : |u * s - v * q| ≤ 2 ^ 44 := (abs_sub _ _).trans (by omega)
  have top' : |u * r - v * p| ≤ 2 ^ 44 := (abs_sub _ _).trans (by omega)
  have first := first.trans top
  have second := second.trans top'
  rw [abs_le] at hp hq hr hs hu hv ps rq us vq ur vp first second
  intro value listed
  simp only [solveValues, List.mem_append, List.mem_cons, List.not_mem_nil, or_false] at listed
  rcases listed with plain | guarded
  · rcases plain with rfl | rfl | rfl | rfl | rfl | rfl | rfl
    all_goals
      rw [fitsIn_64]
      omega
  · split at guarded
    · exact absurd guarded List.not_mem_nil
    · simp only [List.mem_cons, List.not_mem_nil, or_false] at guarded
      rcases guarded with rfl | rfl | rfl | rfl | rfl | rfl | rfl | rfl | rfl | rfl | rfl
      all_goals
        rw [fitsIn_64]
        omega

/-- A coefficient in its 32 bits, saturated or not. -/
lemma abs_coefficient_le (denominator value : Int) :
    |if denominator = 0 then maxInt32 else wrap32 value| ≤ 2 ^ 31 := by
  split
  · decide
  · have range := wrap32_range value
    exact abs_le.mpr ⟨range.1, range.2.le⟩

lemma offsetValues_fit {goal b y a x : Int} (hgoal : |goal| ≤ 2 ^ 26) (hb : |b| ≤ 2 ^ 31)
    (hy : |y| ≤ 2 ^ 16) (ha : |a| ≤ 2 ^ 31) (hx : |x| ≤ 2 ^ 16) :
    ∀ value ∈ offsetValues goal b y a x, FitsIn 64 value := by
  have first := abs_mul_le hb hy
  have second := abs_mul_le ha hx
  rw [abs_le] at hgoal first second
  intro value listed
  simp only [offsetValues, List.mem_cons, List.not_mem_nil, or_false] at listed
  rcases listed with rfl | rfl | rfl | rfl
  all_goals
    rw [fitsIn_64]
    omega

/-- The transform through three pairs never overflows, whatever the points are. -/
lemma affineValues_fit {s₀ s₁ s₂ t₀ t₁ t₂ : Point} (h₀ : s₀.Word) (h₁ : s₁.Word) (h₂ : s₂.Word)
    (k₀ : t₀.Word) (k₁ : t₁.Word) (k₂ : t₂.Word) :
    ∀ value ∈ affineValues s₀ s₁ s₂ t₀ t₁ t₂, FitsIn 64 value := by
  have difference : ∀ {m n : Int}, 0 ≤ m ∧ m < 2 ^ 16 → 0 ≤ n ∧ n < 2 ^ 16 → |m - n| ≤ 2 ^ 16 := by
    intro m n hm hn
    exact abs_le.mpr ⟨by omega, by omega⟩
  have scaled : ∀ {m n : Int}, 0 ≤ m ∧ m < 2 ^ 16 → 0 ≤ n ∧ n < 2 ^ 16 →
      |m * 0x400 - n * 0x400| ≤ 2 ^ 27 := by
    intro m n hm hn
    exact abs_le.mpr ⟨by omega, by omega⟩
  have single : ∀ {n : Int}, 0 ≤ n ∧ n < 2 ^ 16 → |n| ≤ 2 ^ 16 := by
    intro n hn
    exact abs_le.mpr ⟨by omega, by omega⟩
  have goal : ∀ {n : Int}, 0 ≤ n ∧ n < 2 ^ 16 → |n * 0x400| ≤ 2 ^ 26 := by
    intro n hn
    exact abs_le.mpr ⟨by omega, by omega⟩
  intro value listed
  simp only [affineValues, List.mem_append] at listed
  rcases listed with (((scaledUp | vertical) | horizontal) | first) | second
  · obtain ⟨⟨x₀, x₀'⟩, y₀, y₀'⟩ := k₀
    obtain ⟨⟨x₁, x₁'⟩, y₁, y₁'⟩ := k₁
    obtain ⟨⟨x₂, x₂'⟩, y₂, y₂'⟩ := k₂
    simp only [List.mem_cons, List.not_mem_nil, or_false] at scaledUp
    rcases scaledUp with rfl | rfl | rfl | rfl | rfl | rfl
    all_goals
      rw [fitsIn_64]
      omega
  · exact solveValues_fit (difference h₁.1 h₀.1) (difference h₁.2 h₀.2) (difference h₂.1 h₀.1)
      (difference h₂.2 h₀.2) (scaled k₁.2 k₀.2) (scaled k₂.2 k₀.2) value vertical
  · exact solveValues_fit (difference h₀.1 h₁.1) (difference h₀.2 h₁.2) (difference h₁.1 h₂.1)
      (difference h₁.2 h₂.2) (scaled k₀.1 k₁.1) (scaled k₁.1 k₂.1) value horizontal
  · exact offsetValues_fit (goal k₀.1) (abs_coefficient_le _ _) (single h₀.2)
      (abs_coefficient_le _ _) (single h₀.1) value first
  · exact offsetValues_fit (goal k₂.2) (abs_coefficient_le _ _) (single h₂.2)
      (abs_coefficient_le _ _) (single h₂.1) value second

lemma small_linearPart (s₀ s₁ s₂ t₀ t₁ t₂ : Point) :
    (linearPart (affineFromThreePoints s₀ s₁ s₂ t₀ t₁ t₂)).Small := by
  have shifted : ∀ denominator value : Int,
      |(Int32.ofInt (shiftRight (if denominator = 0 then maxInt32 else wrap32 value) 2)).toInt| ≤
        2 ^ 29 := by
    intro denominator value
    have range := abs_le.mp (abs_coefficient_le denominator value)
    generalize (if denominator = 0 then maxInt32 else wrap32 value) = coefficient at range
    unfold shiftRight
    rw [Int32.toInt_ofInt_of_le (by omega) (by omega)]
    exact abs_le.mpr ⟨by omega, by omega⟩
  exact ⟨shifted _ _, shifted _ _, shifted _ _, shifted _ _⟩

lemma linearPart_transformOf (a b x c d y : Int) :
    linearPart (transformOf a b x c d y) =
      ⟨(Int32.ofInt a).toInt, (Int32.ofInt b).toInt, (Int32.ofInt c).toInt,
        (Int32.ofInt d).toInt⟩ := rfl

lemma trace_of_collinear {s₀ s₁ s₂ : Point} (t₀ t₁ t₂ : Point)
    (line : (s₁.x - s₀.x) * (s₂.y - s₀.y) = (s₂.x - s₀.x) * (s₁.y - s₀.y)) :
    (linearPart (affineFromThreePoints s₀ s₁ s₂ t₀ t₁ t₂)).trace = 4 * 0x1fffffff ^ 2 := by
  have vertical : (s₁.x - s₀.x) * (s₂.y - s₀.y) - (s₂.x - s₀.x) * (s₁.y - s₀.y) = 0 :=
    sub_eq_zero.mpr line
  have horizontal : (s₀.x - s₁.x) * (s₁.y - s₂.y) - (s₁.x - s₂.x) * (s₀.y - s₁.y) = 0 := by
    linarith
  have saturated : (Int32.ofInt (shiftRight maxInt32 2)).toInt = 0x1fffffff := by decide
  simp only [affineFromThreePoints, vertical, horizontal, if_true]
  rw [linearPart_transformOf, LinearPart.trace, saturated]
  norm_num

/-- Three points on a line saturate all coefficients, and the square of the trace overflows. -/
theorem not_rigidFits_of_collinear {s₀ s₁ s₂ : Point} (t₀ t₁ t₂ : Point)
    (line : (s₁.x - s₀.x) * (s₂.y - s₀.y) = (s₂.x - s₀.x) * (s₁.y - s₀.y)) :
    ¬RigidFits (linearPart (affineFromThreePoints s₀ s₁ s₂ t₀ t₁ t₂)) := by
  rw [rigidFits_iff (small_linearPart s₀ s₁ s₂ t₀ t₁ t₂), trace_of_collinear t₀ t₁ t₂ line]
  norm_num

end GoodixSpi.Chicago
