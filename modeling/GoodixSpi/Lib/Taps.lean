import Mathlib.Algebra.Order.Ring.Int
import Mathlib.Algebra.Order.Group.Unbundled.Abs
import Mathlib.Algebra.Order.Ring.Abs
import Mathlib.Tactic.Ring
import Mathlib.Tactic.Linarith

/-! Filters of signals on the integers. Two filters in a row are one, a symmetric filter keeps a
signal mirrored, and the sum of the sizes of its taps bounds what a filter can make of a signal. -/

namespace Taps

/-- The weighted sum of a signal from `x` on. -/
def taps : List ℤ → (ℤ → ℤ) → ℤ → ℤ
  | [], _, _ => 0
  | tap :: rest, signal, x => tap * signal x + taps rest signal (x + 1)

def size (kernel : List ℤ) : ℤ := (kernel.map abs).sum

def scale (factor : ℤ) (kernel : List ℤ) : List ℤ := kernel.map (factor * ·)

/-- The shorter list counts as if it went on with zeros. -/
def add : List ℤ → List ℤ → List ℤ
  | [], other => other
  | kernel, [] => kernel
  | tap :: rest, first :: later => (tap + first) :: add rest later

/-- The taps of two filters in a row. -/
def compose : List ℤ → List ℤ → List ℤ
  | [], _ => []
  | tap :: rest, inner => add (scale tap inner) (0 :: compose rest inner)

variable {kernel : List ℤ} {signal other : ℤ → ℤ} {x bound : ℤ}

lemma taps_nil (signal : ℤ → ℤ) (x : ℤ) : taps [] signal x = 0 := rfl

lemma taps_cons (tap : ℤ) (rest : List ℤ) (signal : ℤ → ℤ) (x : ℤ) :
    taps (tap :: rest) signal x = tap * signal x + taps rest signal (x + 1) := rfl

lemma size_cons (tap : ℤ) (rest : List ℤ) : size (tap :: rest) = |tap| + size rest :=
  List.sum_cons

lemma scale_cons (factor tap : ℤ) (rest : List ℤ) :
    scale factor (tap :: rest) = factor * tap :: scale factor rest := rfl

lemma add_cons (tap first : ℤ) (rest later : List ℤ) :
    add (tap :: rest) (first :: later) = (tap + first) :: add rest later := rfl

lemma compose_cons (tap : ℤ) (rest inner : List ℤ) :
    compose (tap :: rest) inner = add (scale tap inner) (0 :: compose rest inner) := rfl

lemma taps_congr (same : ∀ x, signal x = other x) (kernel : List ℤ) (x : ℤ) :
    taps kernel signal x = taps kernel other x := by
  rw [funext same]

lemma taps_add_signal (kernel : List ℤ) (signal other : ℤ → ℤ) (x : ℤ) :
    taps kernel (fun x => signal x + other x) x = taps kernel signal x + taps kernel other x := by
  induction kernel generalizing x with
  | nil => rfl
  | cons tap rest ih =>
    rw [taps_cons, taps_cons, taps_cons, ih]
    ring

lemma taps_mul_signal (kernel : List ℤ) (factor : ℤ) (signal : ℤ → ℤ) (x : ℤ) :
    taps kernel (fun x => factor * signal x) x = factor * taps kernel signal x := by
  induction kernel generalizing x with
  | nil => rw [taps_nil, taps_nil, mul_zero]
  | cons tap rest ih =>
    rw [taps_cons, taps_cons, ih]
    ring

lemma taps_const (kernel : List ℤ) (value x : ℤ) :
    taps kernel (fun _ => value) x = kernel.sum * value := by
  induction kernel generalizing x with
  | nil => exact (zero_mul value).symm
  | cons tap rest ih =>
    rw [taps_cons, ih, List.sum_cons]
    ring

lemma taps_shift (kernel : List ℤ) (signal : ℤ → ℤ) (steps x : ℤ) :
    taps kernel (fun x => signal (x + steps)) x = taps kernel signal (x + steps) := by
  induction kernel generalizing x with
  | nil => rfl
  | cons tap rest ih => rw [taps_cons, taps_cons, ih, add_right_comm]

/-- Two directions can be filtered in either order. -/
lemma taps_comm (kernel other : List ℤ) (image : ℤ → ℤ → ℤ) (x y : ℤ) :
    taps kernel (fun x => taps other (image x) y) x =
      taps other (fun y => taps kernel (fun x => image x y) x) y := by
  induction kernel generalizing x with
  | nil =>
    simp only [taps_nil]
    rw [taps_const, mul_zero]
  | cons tap rest ih => simp only [taps_cons, ih, taps_add_signal, taps_mul_signal]

lemma taps_append (front back : List ℤ) (signal : ℤ → ℤ) (x : ℤ) :
    taps (front ++ back) signal x = taps front signal x + taps back signal (x + front.length) := by
  induction front generalizing x with
  | nil => rw [List.nil_append, List.length_nil, Nat.cast_zero, add_zero, taps_nil, zero_add]
  | cons tap rest ih =>
    rw [List.cons_append, taps_cons, taps_cons, ih, List.length_cons]
    push_cast
    ring_nf

/-! ### Sums, multiples and compositions of kernels -/

lemma taps_scale (factor : ℤ) (kernel : List ℤ) (signal : ℤ → ℤ) (x : ℤ) :
    taps (scale factor kernel) signal x = factor * taps kernel signal x := by
  induction kernel generalizing x with
  | nil => exact (mul_zero factor).symm
  | cons tap rest ih =>
    rw [scale_cons, taps_cons, taps_cons, ih]
    ring

lemma taps_add (kernel added : List ℤ) (signal : ℤ → ℤ) (x : ℤ) :
    taps (add kernel added) signal x = taps kernel signal x + taps added signal x := by
  induction kernel, added using add.induct generalizing x with
  | case1 added => exact (zero_add _).symm
  | case2 kernel nonempty =>
    cases kernel with
    | nil => rfl
    | cons tap rest => exact (add_zero _).symm
  | case3 tap rest first later ih =>
    rw [add_cons, taps_cons, taps_cons, taps_cons, ih]
    ring

lemma taps_compose (outer inner : List ℤ) (signal : ℤ → ℤ) (x : ℤ) :
    taps (compose outer inner) signal x = taps outer (taps inner signal) x := by
  induction outer generalizing x with
  | nil => rfl
  | cons tap rest ih =>
    rw [compose_cons, taps_add, taps_scale, taps_cons, taps_cons, ih, zero_mul, zero_add]

/-! ### Bounds -/

lemma abs_taps_le (small : ∀ x, |signal x| ≤ bound) (kernel : List ℤ) (x : ℤ) :
    |taps kernel signal x| ≤ size kernel * bound := by
  induction kernel generalizing x with
  | nil => exact le_of_eq (zero_mul bound).symm
  | cons tap rest ih =>
    have first : |tap * signal x| ≤ |tap| * bound := by
      rw [abs_mul]
      exact mul_le_mul_of_nonneg_left (small x) (abs_nonneg tap)
    calc |taps (tap :: rest) signal x| ≤ |tap * signal x| + |taps rest signal (x + 1)| :=
          abs_add_le _ _
      _ ≤ |tap| * bound + size rest * bound := add_le_add first (ih (x + 1))
      _ = size (tap :: rest) * bound := by
        rw [size_cons]
        ring

/-- A filter that leaves nothing of a constant leaves at most half of a signal that is nowhere
negative. -/
lemma abs_taps_balanced (balanced : kernel.sum = 0) (low : ∀ x, 0 ≤ signal x)
    (high : ∀ x, signal x ≤ bound) (x : ℤ) : 2 * |taps kernel signal x| ≤ size kernel * bound := by
  have centered : ∀ x, |2 * signal x + -bound| ≤ bound := by
    intro x
    have := low x
    have := high x
    rw [abs_le]
    constructor <;> linarith
  have same : taps kernel (fun x => 2 * signal x + -bound) x = 2 * taps kernel signal x := by
    rw [taps_add_signal, taps_mul_signal, taps_const, balanced, zero_mul, add_zero]
  have all := abs_taps_le centered kernel x
  rwa [same, abs_mul, show |(2 : ℤ)| = 2 from rfl] at all

lemma taps_nonneg (positive : ∀ tap ∈ kernel, 0 ≤ tap) (low : ∀ x, 0 ≤ signal x) (x : ℤ) :
    0 ≤ taps kernel signal x := by
  induction kernel generalizing x with
  | nil => exact le_rfl
  | cons tap rest ih =>
    exact add_nonneg (mul_nonneg (positive tap List.mem_cons_self) (low x))
      (ih (fun other listed => positive other (List.mem_cons_of_mem tap listed)) (x + 1))

lemma taps_mono (positive : ∀ tap ∈ kernel, 0 ≤ tap) (below : ∀ x, signal x ≤ other x) (x : ℤ) :
    taps kernel signal x ≤ taps kernel other x := by
  induction kernel generalizing x with
  | nil => exact le_rfl
  | cons tap rest ih =>
    exact add_le_add (mul_le_mul_of_nonneg_left (below x) (positive tap List.mem_cons_self))
      (ih (fun other listed => positive other (List.mem_cons_of_mem tap listed)) (x + 1))

/-! ### Mirrored signals -/

/-- The same on both sides of zero and of the last place. -/
structure Mirrored (length : ℕ) (signal : ℤ → ℤ) : Prop where
  left : ∀ x, signal (-x) = signal x
  right : ∀ x, signal (2 * length - x - 2) = signal x

lemma taps_reflect (kernel : List ℤ) (signal : ℤ → ℤ) (center x : ℤ) :
    taps kernel (fun x => signal (center - x)) x =
      taps kernel.reverse signal (center - x - kernel.length + 1) := by
  induction kernel generalizing x with
  | nil => rfl
  | cons tap rest ih =>
    rw [taps_cons, ih, List.reverse_cons, taps_append, List.length_reverse, List.length_cons,
      taps_cons, taps_nil]
    push_cast
    ring_nf

/-- A symmetric kernel reads a mirrored signal the same way from both sides. -/
lemma Mirrored.taps {length : ℕ} (mirrored : Mirrored length signal)
    (symmetric : kernel.reverse = kernel) {radius : ℕ} (odd : kernel.length = 2 * radius + 1) :
    Mirrored length fun x => taps kernel signal (x - radius) where
  left x := by
    have reflected := taps_reflect kernel signal 0 (x - radius)
    simp only [zero_sub, mirrored.left, symmetric, odd] at reflected
    rw [reflected]
    push_cast
    ring_nf
  right x := by
    have reflected := taps_reflect kernel signal (2 * length - 2) (x - radius)
    have same : (fun x => signal (2 * length - 2 - x)) = signal := by
      funext x
      rw [← mirrored.right x]
      ring_nf
    rw [same, symmetric, odd] at reflected
    rw [reflected]
    push_cast
    ring_nf

end Taps
