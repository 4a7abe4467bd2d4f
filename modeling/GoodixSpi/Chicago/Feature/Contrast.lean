import GoodixSpi.Lib.Taps
import GoodixSpi.Chicago.Feature.Gradients

/-! How steep the input of the gradients can be. The two filters behind it read images mirrored at
their borders, so without the roundings both are filters of one mirrored image, and the taps of the
two together bound every difference. -/

namespace GoodixSpi.Chicago

open Taps

/-! ### Reflection -/

/-- Once there is enough fuel, it does not matter how much. -/
lemma reflect101_stable {length : ℕ} (wide : 2 ≤ length) {fuel other : ℕ} {coordinate : ℤ}
    (enough : 2 * coordinate.natAbs + (if coordinate < 0 then 1 else 0) < fuel)
    (enoughToo : 2 * coordinate.natAbs + (if coordinate < 0 then 1 else 0) < other) :
    reflect101 length fuel coordinate = reflect101 length other coordinate := by
  induction fuel generalizing other coordinate with
  | zero => omega
  | succ fuel ih =>
    obtain ⟨other, rfl⟩ := Nat.exists_eq_succ_of_ne_zero (show other ≠ 0 by omega)
    unfold reflect101
    split
    · next negative =>
      rw [if_pos negative] at enough enoughToo
      apply ih <;> rw [if_neg (by omega)] <;> omega
    · next nonnegative =>
      rw [if_neg nonnegative] at enough enoughToo
      split
      · next outside => apply ih <;> split <;> omega
      · rfl

lemma temporalReflect101_eq {length : ℕ} (wide : 2 ≤ length) {fuel : ℕ} {coordinate : ℤ}
    (enough : 2 * coordinate.natAbs + (if coordinate < 0 then 1 else 0) < fuel) :
    temporalReflect101 coordinate length = (reflect101 length fuel coordinate).toNat := by
  unfold temporalReflect101
  rw [reflect101_stable wide (by split <;> omega) enough]

lemma temporalReflect101_of_lt {length coordinate : ℕ} (inside : coordinate < length) :
    temporalReflect101 coordinate length = coordinate := by
  unfold temporalReflect101
  rw [reflect101, if_neg (by omega), if_neg (by omega), Int.toNat_natCast]

lemma temporalReflect101_neg {length : ℕ} (wide : 2 ≤ length) (coordinate : ℤ) :
    temporalReflect101 (-coordinate) length = temporalReflect101 coordinate length := by
  have flip {coordinate : ℤ} (positive : 0 < coordinate) :
      temporalReflect101 (-coordinate) length = temporalReflect101 coordinate length := by
    rw [temporalReflect101, reflect101, if_pos (by omega), neg_neg]
    exact (temporalReflect101_eq wide (by rw [if_neg (by omega)]; omega)).symm
  rcases lt_trichotomy coordinate 0 with negative | rfl | positive
  · have := flip (show 0 < -coordinate by omega)
    rw [neg_neg] at this
    exact this.symm
  · rfl
  · exact flip positive

lemma temporalReflect101_end {length : ℕ} (wide : 2 ≤ length) (coordinate : ℤ) :
    temporalReflect101 (2 * length - coordinate - 2) length =
      temporalReflect101 coordinate length := by
  have flip {coordinate : ℤ} (beyond : (length : ℤ) ≤ coordinate) :
      temporalReflect101 (2 * length - coordinate - 2) length =
        temporalReflect101 coordinate length := by
    have step : temporalReflect101 coordinate length =
        (reflect101 length (2 * coordinate.natAbs + 1)
          (2 * length - coordinate - 2)).toNat := by
      rw [temporalReflect101, reflect101, if_neg (by omega), if_pos beyond]
    rw [step]
    exact temporalReflect101_eq wide (by split <;> omega)
  rcases lt_trichotomy coordinate (length - 1) with before | rfl | after
  · have := flip (show (length : ℤ) ≤ 2 * length - coordinate - 2 by omega)
    rw [show 2 * (length : ℤ) - (2 * length - coordinate - 2) - 2 = coordinate by omega] at this
    exact this.symm
  · rw [show 2 * (length : ℤ) - (length - 1) - 2 = length - 1 by omega]
  · exact flip (by omega)

/-- A mirrored signal is the same at the place a coordinate is reflected to. -/
lemma mirrored_reflect {length : ℕ} {signal : ℤ → ℤ} (mirrored : Mirrored length signal)
    (wide : 2 ≤ length) (coordinate : ℤ) :
    signal (temporalReflect101 coordinate length) = signal coordinate := by
  have rounds (fuel : ℕ) (coordinate : ℤ) :
      signal (reflect101 length fuel coordinate) = signal coordinate := by
    induction fuel generalizing coordinate with
    | zero => rfl
    | succ fuel ih =>
      unfold reflect101
      split
      · rw [ih, mirrored.left]
      · split
        · rw [ih, mirrored.right]
        · rfl
  have inside := reflect101_inside wide (2 * coordinate.natAbs + 2) coordinate (by split <;> omega)
  rw [temporalReflect101, Int.toNat_of_nonneg inside.1, rounds]

/-! ### Planes as images on the integers -/

/-- A plane, mirrored in both directions. -/
def extended (plane : Plane) (x y : ℤ) : ℤ :=
  planeAt plane (temporalReflect101 x imageWidth) (temporalReflect101 y imageHeight)

lemma extended_mirrored_x (plane : Plane) (y : ℤ) :
    Mirrored imageWidth fun x => extended plane x y where
  left x := by rw [extended, temporalReflect101_neg (by decide)]; rfl
  right x := by rw [extended, temporalReflect101_end (by decide)]; rfl

lemma extended_mirrored_y (plane : Plane) (x : ℤ) :
    Mirrored imageHeight fun y => extended plane x y where
  left y := by rw [extended, temporalReflect101_neg (by decide)]; rfl
  right y := by rw [extended, temporalReflect101_end (by decide)]; rfl

lemma extended_of_lt (plane : Plane) {x y : ℕ} (inX : x < imageWidth) (inY : y < imageHeight) :
    extended plane x y = planeAt plane x y := by
  rw [extended, temporalReflect101_of_lt inX, temporalReflect101_of_lt inY]

def wholeTaps (kernel : ChicagoKernel) : List ℤ := kernel.map Nat.cast

/-- A kernel of the stage: it reads the same both ways and its coefficients add up to one in Q16. -/
structure UnitKernel (kernel : ChicagoKernel) (radius : ℕ) : Prop where
  length : kernel.length = 2 * radius + 1
  symmetric : kernel.reverse = kernel
  sum : kernel.sum = 0x10000

lemma UnitKernel.taps_symmetric {kernel : ChicagoKernel} {radius : ℕ}
    (unit : UnitKernel kernel radius) : (wholeTaps kernel).reverse = wholeTaps kernel := by
  rw [wholeTaps, ← List.map_reverse, unit.symmetric]

lemma UnitKernel.taps_sum {kernel : ChicagoKernel} {radius : ℕ} (unit : UnitKernel kernel radius) :
    (wholeTaps kernel).sum = 0x10000 := by
  rw [wholeTaps, ← Nat.cast_list_sum, unit.sum]
  rfl

lemma wholeTaps_nonneg (kernel : ChicagoKernel) : ∀ tap ∈ wholeTaps kernel, 0 ≤ tap := by
  intro tap listed
  obtain ⟨coefficient, -, rfl⟩ := List.mem_map.mp listed
  exact Int.natCast_nonneg coefficient

lemma kernelSum_eq (sample : ℤ → ℕ) (kernel : ChicagoKernel) (delta : ℤ) :
    (kernelSum sample kernel delta : ℤ) =
      taps (wholeTaps kernel) (fun delta => (sample delta : ℤ)) delta := by
  induction kernel generalizing delta with
  | nil => rfl
  | cons coefficient rest ih =>
    rw [kernelSum, wholeTaps, List.map_cons, taps_cons, ← wholeTaps, ← ih]
    push_cast
    ring

/-- A sum of 16-bit samples under a unit kernel does not saturate. -/
lemma kernelTap_eq {kernel : ChicagoKernel} {radius : ℕ} (unit : UnitKernel kernel radius)
    {sample : ℤ → ℕ} (small : ∀ delta, sample delta ≤ 0xffff) :
    ((kernelTap kernel sample).toNat : ℤ) =
      taps (wholeTaps kernel) (fun delta => (sample delta : ℤ)) (-radius) / 0x10000 := by
  have half : kernel.length / 2 = radius := by
    rw [unit.length]
    omega
  have most := taps_mono (wholeTaps_nonneg kernel)
    (fun delta => show (sample delta : ℤ) ≤ 0xffff by exact_mod_cast small delta) (-radius)
  rw [taps_const, unit.taps_sum, ← kernelSum_eq] at most
  unfold kernelTap
  rw [half, ← kernelSum_eq, UInt16.toNat_ofNat', Nat.min_eq_left (by omega), Nat.mod_eq_of_lt] <;>
    omega

lemma planeAt_le (plane : Plane) (x y : ℕ) : planeAt plane x y ≤ 0xffff :=
  Nat.le_of_lt_succ (UInt16.toNat_lt _)

/-- A filter of the rows, border or not. -/
lemma extended_filterHorizontal {kernel : ChicagoKernel} {radius : ℕ}
    (unit : UnitKernel kernel radius) (plane : Plane) (x y : ℤ) :
    extended (filterHorizontal plane kernel) x y =
      taps (wholeTaps kernel) (fun x => extended plane x y) (x - radius) / 0x10000 := by
  have inX := temporalReflect101_lt x imageWidth (by decide)
  have inY := temporalReflect101_lt y imageHeight (by decide)
  have sum := mirrored_reflect ((extended_mirrored_x plane y).taps unit.taps_symmetric
    (show (wholeTaps kernel).length = 2 * radius + 1 by
      rw [wholeTaps, List.length_map, unit.length]))
    (by decide) x
  rw [← sum]
  unfold extended filterHorizontal
  rw [planeAt_planeOf _ inX inY, kernelTap_eq unit fun delta => planeAt_le _ _ _]
  rw [sub_eq_neg_add, ← taps_shift]
  simp only [add_comm]

/-- A filter of the columns. -/
lemma extended_filterVertical {kernel : ChicagoKernel} {radius : ℕ}
    (unit : UnitKernel kernel radius) (plane : Plane) (x y : ℤ) :
    extended (filterVertical plane kernel) x y =
      taps (wholeTaps kernel) (fun y => extended plane x y) (y - radius) / 0x10000 := by
  have inX := temporalReflect101_lt x imageWidth (by decide)
  have inY := temporalReflect101_lt y imageHeight (by decide)
  have sum := mirrored_reflect ((extended_mirrored_y plane x).taps unit.taps_symmetric
    (show (wholeTaps kernel).length = 2 * radius + 1 by
      rw [wholeTaps, List.length_map, unit.length]))
    (by decide) y
  rw [← sum]
  unfold extended filterVertical
  rw [planeAt_planeOf _ inX inY, kernelTap_eq unit fun delta => planeAt_le _ _ _]
  rw [sub_eq_neg_add, ← taps_shift]
  simp only [add_comm]

/-! ### Filters without roundings -/

/-- The rows and then the columns of an image. -/
def smooth (kernel : List ℤ) (radius : ℕ) (image : ℤ → ℤ → ℤ) (x y : ℤ) : ℤ :=
  taps kernel (fun y => taps kernel (fun x => image x y) (x - radius)) (y - radius)

/-- The columns and then the rows. -/
lemma smooth_transpose (kernel : List ℤ) (radius : ℕ) (image : ℤ → ℤ → ℤ) (x y : ℤ) :
    smooth kernel radius image x y = smooth kernel radius (fun x y => image y x) y x := by
  unfold smooth
  rw [taps_comm]

/-- Two filters in a row are one. -/
lemma smooth_smooth (outer inner : List ℤ) (outerRadius innerRadius : ℕ) (image : ℤ → ℤ → ℤ)
    (x y : ℤ) : smooth outer outerRadius (smooth inner innerRadius image) x y =
      smooth (compose outer inner) (outerRadius + innerRadius) image x y := by
  have rows (y : ℤ) : taps outer (fun x => smooth inner innerRadius image x y) (x - outerRadius) =
      taps inner (fun y => taps (compose outer inner) (fun x => image x y)
        (x - (outerRadius + innerRadius : ℕ))) (y - innerRadius) := by
    unfold smooth
    rw [taps_comm]
    refine taps_congr (fun y => ?_) inner _
    have shifted := taps_shift outer (taps inner fun x => image x y) (-innerRadius)
      (x - outerRadius)
    rw [taps_compose]
    push_cast
    rw [show x - ((outerRadius : ℤ) + innerRadius) = x - outerRadius + -innerRadius by ring,
      ← shifted]
    rfl
  rw [smooth, taps_congr rows, smooth, taps_compose]
  have shifted := taps_shift outer (taps inner fun y => taps (compose outer inner)
    (fun x => image x y) (x - (outerRadius + innerRadius : ℕ))) (-innerRadius) (y - outerRadius)
  push_cast at shifted ⊢
  rw [show y - ((outerRadius : ℤ) + innerRadius) = y - outerRadius + -innerRadius by ring,
    ← shifted]
  rfl

/-- Both roundings of a filter together take less than two. -/
lemma extended_filterQ16 {kernel : ChicagoKernel} {radius : ℕ} (unit : UnitKernel kernel radius)
    (plane : Plane) (x y : ℤ) :
    0 ≤ smooth (wholeTaps kernel) radius (extended plane) x y -
        0x100000000 * extended (filterQ16 plane kernel) x y ∧
      smooth (wholeTaps kernel) radius (extended plane) x y -
        0x100000000 * extended (filterQ16 plane kernel) x y ≤ 0x200000000 := by
  have rows (y : ℤ) := extended_filterHorizontal unit plane x y
  let narrow := fun y => extended (filterHorizontal plane kernel) x y
  have columns : extended (filterVertical (filterHorizontal plane kernel) kernel) x y =
      taps (wholeTaps kernel) narrow (y - radius) / 0x10000 :=
    extended_filterVertical unit (filterHorizontal plane kernel) x y
  have positive := wholeTaps_nonneg kernel
  have low := taps_mono positive (fun y => show 0x10000 * narrow y ≤
    taps (wholeTaps kernel) (fun x => extended plane x y) (x - radius) by
      dsimp only [narrow]
      rw [rows]
      omega) (y - radius)
  have high := taps_mono positive (fun y => show
    taps (wholeTaps kernel) (fun x => extended plane x y) (x - radius) ≤
      0x10000 * narrow y + 0x10000 by
        dsimp only [narrow]
        rw [rows]
        omega) (y - radius)
  rw [taps_add_signal, taps_const, unit.taps_sum] at high
  rw [taps_mul_signal] at low high
  unfold smooth filterQ16
  omega

/-- A filter multiplies differences. -/
lemma smooth_error {kernel : ChicagoKernel} {radius : ℕ} (unit : UnitKernel kernel radius)
    {image rounded : ℤ → ℤ → ℤ} {factor error : ℤ}
    (close : ∀ x y, 0 ≤ image x y - factor * rounded x y ∧ image x y - factor * rounded x y ≤ error)
    (x y : ℤ) :
    0 ≤ smooth (wholeTaps kernel) radius image x y -
        factor * smooth (wholeTaps kernel) radius rounded x y ∧
      smooth (wholeTaps kernel) radius image x y -
        factor * smooth (wholeTaps kernel) radius rounded x y ≤ 0x100000000 * error := by
  have positive := wholeTaps_nonneg kernel
  have low (y : ℤ) : factor * taps (wholeTaps kernel) (fun x => rounded x y) (x - radius) ≤
      taps (wholeTaps kernel) (fun x => image x y) (x - radius) := by
    rw [← taps_mul_signal]
    exact taps_mono positive (fun x => by linarith [(close x y).1]) _
  have high (y : ℤ) : taps (wholeTaps kernel) (fun x => image x y) (x - radius) ≤
      factor * taps (wholeTaps kernel) (fun x => rounded x y) (x - radius) + 0x10000 * error := by
    rw [← taps_mul_signal, ← unit.taps_sum, ← taps_const (wholeTaps kernel) error (x - radius),
      ← taps_add_signal]
    exact taps_mono positive (fun x => by linarith [(close x y).2]) _
  have above := taps_mono positive low (y - radius)
  have below := taps_mono positive high (y - radius)
  rw [taps_add_signal, taps_const, unit.taps_sum] at below
  rw [taps_mul_signal] at above below
  unfold smooth
  constructor
  · linarith
  · linarith

/-! ### The gradients of an image -/

/-- The kernels of the input, with their taps as integers. -/
def innerTaps : List ℤ := wholeTaps (gradientInputKernels.getD 0 [])

def outerTaps : List ℤ := wholeTaps (gradientInputKernels.getD 1 [])

lemma innerUnit : UnitKernel (gradientInputKernels.getD 0 []) 4 := ⟨rfl, rfl, rfl⟩

lemma outerUnit : UnitKernel (gradientInputKernels.getD 1 []) 3 := ⟨rfl, rfl, rfl⟩

/-- The difference across a pixel of the first filter. -/
def innerSteps : List ℤ := 0 :: 0 :: 0 :: scale 0x10000 (compose [-1, 0, 1] innerTaps)

/-- The difference across a pixel of both filters. -/
def bothTaps : List ℤ := compose outerTaps innerTaps

def bothSteps : List ℤ := compose [-1, 0, 1] bothTaps

/-- Along the other direction, ten times the first filter less nine times both. -/
def acrossTaps : List ℤ :=
  add (0 :: 0 :: 0 :: scale 0xa0000 innerTaps) (scale (-9) bothTaps)

/-- What the difference across a pixel would be without the roundings, in Q64. -/
def idealStep (image : ℤ → ℤ → ℤ) (x y : ℤ) : ℤ :=
  0xa00000000 * (smooth innerTaps 4 image (x + 1) y - smooth innerTaps 4 image (x - 1) y) -
    9 * (smooth outerTaps 3 (smooth innerTaps 4 image) (x + 1) y -
      smooth outerTaps 3 (smooth innerTaps 4 image) (x - 1) y)

lemma taps_delayed (kernel : List ℤ) (signal : ℤ → ℤ) (x : ℤ) :
    taps (0 :: 0 :: 0 :: kernel) signal (x - 3) = taps kernel signal x := by
  simp only [taps_cons, zero_mul, zero_add]
  rw [show x - 3 + 1 + 1 + 1 = x by ring]

lemma smooth_step (kernel : List ℤ) (radius : ℕ) (image : ℤ → ℤ → ℤ) (x y : ℤ) :
    smooth kernel radius image (x + 1) y - smooth kernel radius image (x - 1) y =
      taps kernel (fun y => taps (compose [-1, 0, 1] kernel) (fun x => image x y)
        (x - 1 - radius)) (y - radius) := by
  have step (y : ℤ) : taps (compose [-1, 0, 1] kernel) (fun x => image x y) (x - 1 - radius) =
      taps kernel (fun x => image x y) (x + 1 - radius) +
        -1 * taps kernel (fun x => image x y) (x - 1 - radius) := by
    rw [taps_compose]
    simp only [taps_cons, taps_nil]
    rw [show x - 1 - (radius : ℤ) + 1 + 1 = x + 1 - radius by ring]
    ring
  rw [taps_congr step, taps_add_signal, taps_mul_signal]
  unfold smooth
  ring

/-- The taps that both filters share, and what is left of the second one. -/
lemma idealStep_eq (image : ℤ → ℤ → ℤ) (x y : ℤ) : idealStep image x y =
    taps acrossTaps (fun y => taps innerSteps (fun x => image x y) (x - 8)) (y - 7) +
      9 * taps bothTaps (fun y => taps (add innerSteps (scale (-1) bothSteps))
        (fun x => image x y) (x - 8)) (y - 7) := by
  let inner := fun y => taps (compose [-1, 0, 1] innerTaps) (fun x => image x y) (x - 5)
  let both := fun y => taps bothSteps (fun x => image x y) (x - 8)
  have first : smooth innerTaps 4 image (x + 1) y - smooth innerTaps 4 image (x - 1) y =
      taps innerTaps inner (y - 4) := by
    rw [smooth_step]
    refine taps_congr (fun y => ?_) _ _
    rw [show x - 1 - ((4 : ℕ) : ℤ) = x - 5 by push_cast; ring]
  have second : smooth outerTaps 3 (smooth innerTaps 4 image) (x + 1) y -
      smooth outerTaps 3 (smooth innerTaps 4 image) (x - 1) y = taps bothTaps both (y - 7) := by
    rw [smooth_smooth, smooth_smooth, ← bothTaps, smooth_step]
    refine taps_congr (fun y => ?_) _ _
    rw [show x - 1 - ((3 + 4 : ℕ) : ℤ) = x - 8 by push_cast; ring]
    rfl
  have steps (y : ℤ) : taps innerSteps (fun x => image x y) (x - 8) = 0x10000 * inner y := by
    rw [innerSteps, show x - 8 = x - 5 - 3 by ring, taps_delayed, taps_scale]
  have rest (y : ℤ) : taps (add innerSteps (scale (-1) bothSteps)) (fun x => image x y) (x - 8) =
      0x10000 * inner y + -1 * both y := by
    rw [taps_add, taps_scale, steps]
  have across : taps acrossTaps (fun y => 0x10000 * inner y) (y - 7) =
      0xa00000000 * taps innerTaps inner (y - 4) - 9 * (0x10000 * taps bothTaps inner (y - 7)) := by
    rw [acrossTaps, taps_add, taps_scale, taps_mul_signal bothTaps,
      show y - 7 = y - 4 - 3 by ring, taps_delayed, taps_scale, taps_mul_signal]
    ring
  rw [taps_congr steps, taps_congr rest, across, taps_add_signal, taps_mul_signal, taps_mul_signal,
    idealStep, first, second]
  ring

/-- The two sums of taps, for pixels of at most 0xff00. -/
lemma abs_idealStep_le {image : ℤ → ℤ → ℤ} (low : ∀ x y, 0 ≤ image x y)
    (high : ∀ x y, image x y ≤ 0xff00) (x y : ℤ) :
    |idealStep image x y| ≤ 210400 * 0x10000000000000000 := by
  have twice {kernel : List ℤ} (balanced : kernel.sum = 0) (x y : ℤ) :
      |2 * taps kernel (fun x => image x y) x| ≤ size kernel * 0xff00 := by
    rw [abs_mul, show |(2 : ℤ)| = 2 from rfl]
    exact abs_taps_balanced balanced (fun x => low x y) (fun x => high x y) x
  have steps : innerSteps.sum = 0 := by decide
  have rest : (add innerSteps (scale (-1) bothSteps)).sum = 0 := by decide
  have first := abs_taps_le (fun y => twice steps (x - 8) y) acrossTaps (y - 7)
  have second := abs_taps_le (fun y => twice rest (x - 8) y) bothTaps (y - 7)
  rw [taps_mul_signal] at first second
  rw [idealStep_eq]
  have sizes : size acrossTaps * (size innerSteps * 0xff00) + 9 * (size bothTaps *
      (size (add innerSteps (scale (-1) bothSteps)) * 0xff00)) ≤ 420800 * 0x10000000000000000 := by
    decide
  rw [abs_le] at *
  constructor <;> linarith

/-- What the roundings make of it. -/
lemma abs_step_le {image inner both : ℤ → ℤ → ℤ} (low : ∀ x y, 0 ≤ image x y)
    (high : ∀ x y, image x y ≤ 0xff00)
    (innerClose : ∀ x y, 0 ≤ smooth innerTaps 4 image x y - 0x100000000 * inner x y ∧
      smooth innerTaps 4 image x y - 0x100000000 * inner x y ≤ 0x200000000)
    (bothClose : ∀ x y,
      0 ≤ smooth outerTaps 3 (smooth innerTaps 4 image) x y - 0x10000000000000000 * both x y ∧
      smooth outerTaps 3 (smooth innerTaps 4 image) x y - 0x10000000000000000 * both x y ≤
        0x40000000000000000) (x y : ℤ) :
    |10 * (inner (x + 1) y - inner (x - 1) y) - 9 * (both (x + 1) y - both (x - 1) y)| ≤
      210456 := by
  have ideal := abs_idealStep_le low high x y
  have innerAfter := innerClose (x + 1) y
  have innerBefore := innerClose (x - 1) y
  have bothAfter := bothClose (x + 1) y
  have bothBefore := bothClose (x - 1) y
  unfold idealStep at ideal
  rw [abs_le] at *
  omega

section Image

variable (image : FeatureImage)

def innerPlane : Plane := filterQ16 (lifted image) (gradientInputKernels.getD 0 [])

def bothPlane : Plane := filterQ16 (innerPlane image) (gradientInputKernels.getD 1 [])

lemma extended_lifted_range (x y : ℤ) :
    0 ≤ extended (lifted image) x y ∧ extended (lifted image) x y ≤ 0xff00 := by
  have inside := pixel_lt (temporalReflect101_lt x imageWidth (by decide))
    (temporalReflect101_lt y imageHeight (by decide))
  unfold extended planeAt
  refine ⟨Int.natCast_nonneg _, ?_⟩
  rw [pixelAt_eq _ inside, lifted, Vector.getElem_map]
  have byte := UInt8.toNat_lt (image[temporalReflect101 y imageHeight * imageWidth +
    temporalReflect101 x imageWidth])
  rw [UInt16.toNat_shiftLeft, UInt8.toNat_toUInt16, show (8 : UInt16).toNat % 16 = 8 from rfl,
    Nat.shiftLeft_eq]
  omega

lemma bothPlane_close (x y : ℤ) :
    0 ≤ smooth outerTaps 3 (smooth innerTaps 4 (extended (lifted image))) x y -
        0x10000000000000000 * extended (bothPlane image) x y ∧
      smooth outerTaps 3 (smooth innerTaps 4 (extended (lifted image))) x y -
        0x10000000000000000 * extended (bothPlane image) x y ≤ 0x40000000000000000 := by
  have once : 0 ≤ smooth outerTaps 3 (smooth innerTaps 4 (extended (lifted image))) x y -
        0x100000000 * smooth outerTaps 3 (extended (innerPlane image)) x y ∧
      smooth outerTaps 3 (smooth innerTaps 4 (extended (lifted image))) x y -
        0x100000000 * smooth outerTaps 3 (extended (innerPlane image)) x y ≤
          0x100000000 * 0x200000000 :=
    smooth_error outerUnit (extended_filterQ16 innerUnit (lifted image)) x y
  have twice : 0 ≤ smooth outerTaps 3 (extended (innerPlane image)) x y -
        0x100000000 * extended (bothPlane image) x y ∧
      smooth outerTaps 3 (extended (innerPlane image)) x y -
        0x100000000 * extended (bothPlane image) x y ≤ 0x200000000 :=
    extended_filterQ16 outerUnit (innerPlane image) x y
  omega

lemma gradientInputAt_eq {x y : ℕ} (inX : x < imageWidth) (inY : y < imageHeight) :
    gradientInputAt (buildGradientInput image) x y =
      10 * extended (innerPlane image) x y - 9 * extended (bothPlane image) x y := by
  have inside : y * imageWidth + x < pixels := pixel_lt inX inY
  rw [extended_of_lt _ inX inY, extended_of_lt _ inX inY, gradientInputAt,
    List.getD_eq_getElem?_getD, List.getElem?_eq_getElem (by rwa [Vector.length_toList]),
    Vector.getElem_toList, Option.getD_some, buildGradientInput, getElem_planeOf _ inX]
  rfl

/-- Between pixels of the image. -/
lemma abs_gradientHorizontal_le {x y : ℕ} (left : 1 ≤ x) (right : x + 1 < imageWidth)
    (inY : y < imageHeight) :
    |gradientHorizontal (buildGradientInput image) x y| ≤ 210456 := by
  have step := abs_step_le (fun x y => (extended_lifted_range image x y).1)
    (fun x y => (extended_lifted_range image x y).2)
    (extended_filterQ16 innerUnit (lifted image)) (bothPlane_close image) x y
  unfold gradientHorizontal
  rw [gradientInputAt_eq image right inY, gradientInputAt_eq image (by omega) inY]
  push_cast [left]
  convert step using 2
  rw [innerPlane]
  ring

lemma abs_gradientVertical_le {x y : ℕ} (inX : x < imageWidth) (top : 1 ≤ y)
    (bottom : y + 1 < imageHeight) :
    |gradientVertical (buildGradientInput image) x y| ≤ 210456 := by
  have step := @abs_step_le (fun x y => extended (lifted image) y x)
    (fun x y => extended (innerPlane image) y x) (fun x y => extended (bothPlane image) y x)
    (fun x y => (extended_lifted_range image y x).1)
    (fun x y => (extended_lifted_range image y x).2)
    (fun x y => by
      rw [smooth_transpose]
      exact extended_filterQ16 innerUnit (lifted image) y x)
    (fun x y => by
      have swapped : smooth innerTaps 4 (fun x y => extended (lifted image) y x) =
          fun x y => smooth innerTaps 4 (extended (lifted image)) y x :=
        funext fun x => funext fun y => smooth_transpose _ _ _ x y
      rw [swapped, smooth_transpose]
      exact bothPlane_close image y x) y x
  unfold gradientVertical
  rw [gradientInputAt_eq image inX bottom, gradientInputAt_eq image inX (by omega)]
  push_cast [top]
  convert step using 2
  ring

end Image

/-- Registers that 32 bits hold. -/
def CordicRegisters.Fits (registers : CordicRegisters) : Prop :=
  |registers.x| < 0x80000000 ∧ |registers.y| < 0x80000000

/-- Whatever the image, no gradient is clamped, the registers that measure it never overflow, and
neither does the length they leave. -/
theorem gradient_registers_fit (image : FeatureImage) (x : Fin 78) (y : Fin 62) (passes : Fin 14) :
    let input := buildGradientInput image
    let horizontal := gradientHorizontal input (x + 1) (y + 1)
    let vertical := gradientVertical input (x + 1) (y + 1)
    clampGradient horizontal = horizontal ∧ clampGradient vertical = vertical ∧
      (horizontal ≠ 0 → vertical ≠ 0 →
        (cordicRun passes 0 ⟨|horizontal * 0x1000|, |vertical * 0x1000|, 0⟩).Fits) ∧
      0 ≤ (gradientPolar input (x + 1) (y + 1)).2 ∧
      (gradientPolar input (x + 1) (y + 1)).2 < 0x80000000 := by
  intro input horizontal vertical
  have across : |horizontal| ≤ 210456 :=
    abs_gradientHorizontal_le image (show 1 ≤ (x : ℕ) + 1 by omega)
      (show (x : ℕ) + 1 + 1 < imageWidth by have := x.isLt; unfold imageWidth; omega)
      (show (y : ℕ) + 1 < imageHeight by have := y.isLt; unfold imageHeight; omega)
  have down : |vertical| ≤ 210456 := abs_gradientVertical_le image
    (show (x : ℕ) + 1 < imageWidth by have := x.isLt; unfold imageWidth; omega)
    (show 1 ≤ (y : ℕ) + 1 by omega)
    (show (y : ℕ) + 1 + 1 < imageHeight by have := y.isLt; unfold imageHeight; omega)
  have scaled {value : ℤ} : |value * 0x1000| = |value| * 0x1000 := by
    rw [abs_mul]
    rfl
  have whole {value : ℤ} (small : |value| ≤ 210456) : clampGradient value = value := by
    rw [abs_le] at small
    unfold clampGradient
    rw [if_neg (by omega), if_neg (by omega)]
  have length := @cordic_magnitude (vertical * 0x1000) (horizontal * 0x1000) (210456 * 0x1000)
    (by rw [scaled]; omega) (by rw [scaled]; omega)
  have polar : gradientPolar input (x + 1) (y + 1) =
      cordicMagnitudeOrientation (vertical * 0x1000) (horizontal * 0x1000) := by
    unfold gradientPolar
    rw [whole across, whole down]
  refine ⟨whole across, whole down, fun sideways upright => ?_, ?_, ?_⟩
  · have xPositive := abs_pos.mpr sideways
    have yPositive := abs_pos.mpr upright
    obtain ⟨positive, xGrown, yGrown⟩ := @cordicRun_bounded (210456 * 0x1000)
      ⟨|horizontal * 0x1000|, |vertical * 0x1000|, 0⟩ (by dsimp only; rw [scaled]; omega)
      (by dsimp only; rw [scaled]; omega) (by dsimp only; rw [scaled]; omega)
      (by dsimp only; rw [scaled]; omega) passes
    have counted := passes.isLt
    unfold CordicRegisters.Fits
    rw [abs_of_pos positive]
    omega
  · rw [polar]
    exact length.1
  · rw [polar]
    omega

end GoodixSpi.Chicago
