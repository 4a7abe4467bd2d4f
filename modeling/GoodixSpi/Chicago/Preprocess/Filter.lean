import GoodixSpi.Chicago.PreparedFrame

/-! The separable five-tap filter of the preprocessor, with borders reflected around the
outermost pixel. -/

namespace GoodixSpi.Chicago

/-- The loop of `temporal_reflect_101`, a bounded number of rounds. -/
def reflect101 (length : Nat) : Nat → Int → Int
  | 0, coordinate => coordinate
  | fuel + 1, coordinate =>
    if coordinate < 0 then reflect101 length fuel (-coordinate)
    else if coordinate ≥ length then reflect101 length fuel (2 * length - coordinate - 2)
    else coordinate

def temporalReflect101 (coordinate : Int) (length : Nat) : Nat :=
  (reflect101 length (2 * coordinate.natAbs + 2) coordinate).toNat

lemma reflect101_inside {length : Nat} (wide : 2 ≤ length) (fuel : Nat) (coordinate : Int)
    (enough : 2 * coordinate.natAbs + (if coordinate < 0 then 1 else 0) < fuel) :
    0 ≤ reflect101 length fuel coordinate ∧ reflect101 length fuel coordinate < length := by
  induction fuel generalizing coordinate with
  | zero => omega
  | succ fuel ih =>
    unfold reflect101
    split
    · next negative =>
      rw [if_pos negative] at enough
      apply ih
      rw [if_neg (by omega)]
      omega
    · next nonnegative =>
      rw [if_neg nonnegative] at enough
      split
      · next outside =>
        apply ih
        split <;> omega
      · next inside => omega

/-- The loop ends inside the plane. -/
lemma temporalReflect101_lt (coordinate : Int) (length : Nat) (wide : 2 ≤ length) :
    temporalReflect101 coordinate length < length := by
  have inside := reflect101_inside wide (2 * coordinate.natAbs + 2) coordinate
    (by split <;> omega)
  rw [temporalReflect101]
  omega

abbrev Kernel := Vector UInt32 5

/-- One weighted sum; the products are 32-bit, the sum is 64-bit. -/
def tapSum (kernel : Kernel) (sample : Fin 5 → UInt16) : UInt64 :=
  (List.finRange 5).foldl
    (fun sum tap => sum + ((sample tap).toUInt32 * kernel[tap]).toUInt64) 0

def horizontalTap (source : Plane) (pixel : Nat) (tap : Fin 5) : UInt16 :=
  pixelAt source (pixel / imageWidth * imageWidth +
    temporalReflect101 ((pixel % imageWidth : Nat) + (tap : Nat) - 2) imageWidth)

def verticalTap (source : Plane) (pixel : Nat) (tap : Fin 5) : UInt16 :=
  pixelAt source (temporalReflect101 ((pixel / imageWidth : Nat) + (tap : Nat) - 2) imageHeight *
    imageWidth + pixel % imageWidth)

/-- Rows first, then columns; `narrow` turns each sum into a pixel. -/
def separableFilter (narrow : UInt64 → UInt16) (kernel : Kernel) (source : Plane) : Plane :=
  let horizontal : Plane := Vector.ofFn fun pixel =>
    narrow (tapSum kernel (horizontalTap source pixel))
  Vector.ofFn fun pixel => narrow (tapSum kernel (verticalTap horizontal pixel))

/-! ### Uniform planes -/

@[simp] lemma pixelAt_replicate (value : UInt16) {index : Nat} (inside : index < pixels) :
    pixelAt (Vector.replicate pixels value) index = value := by
  rw [pixelAt_eq _ inside, Vector.getElem_replicate]

lemma ofFn_const {n : Nat} {f : Fin n → UInt16} {value : UInt16} (h : ∀ i, f i = value) :
    Vector.ofFn f = Vector.replicate n value := by
  ext index inside
  rw [Vector.getElem_ofFn, Vector.getElem_replicate, h]

lemma horizontalTap_replicate (value : UInt16) (pixel : Fin pixels) (tap : Fin 5) :
    horizontalTap (Vector.replicate pixels value) pixel tap = value := by
  have across := temporalReflect101_lt (((pixel : Nat) % imageWidth : Nat) + (tap : Nat) - 2)
    imageWidth (by decide)
  have inside := pixel.isLt
  rw [horizontalTap, pixelAt_replicate]
  simp only [pixels, imageWidth, imageHeight] at across inside ⊢
  omega

lemma verticalTap_replicate (value : UInt16) (pixel : Fin pixels) (tap : Fin 5) :
    verticalTap (Vector.replicate pixels value) pixel tap = value := by
  have down := temporalReflect101_lt (((pixel : Nat) / imageWidth : Nat) + (tap : Nat) - 2)
    imageHeight (by decide)
  rw [verticalTap, pixelAt_replicate]
  simp only [pixels, imageWidth, imageHeight] at down ⊢
  omega

/-- A filter that keeps a constant window keeps a uniform plane. -/
lemma separableFilter_replicate {narrow : UInt64 → UInt16} {kernel : Kernel} {value : UInt16}
    (keeps : narrow (tapSum kernel fun _ => value) = value) :
    separableFilter narrow kernel (Vector.replicate pixels value) =
      Vector.replicate pixels value := by
  have rows : (Vector.ofFn fun pixel : Fin pixels =>
      narrow (tapSum kernel (horizontalTap (Vector.replicate pixels value) pixel))) =
      Vector.replicate pixels value := ofFn_const fun pixel => by
    rw [funext (horizontalTap_replicate value pixel), keeps]
  unfold separableFilter
  dsimp only
  rw [rows]
  exact ofFn_const fun pixel => by rw [funext (verticalTap_replicate value pixel), keeps]

/-- The repair of the edge rows changes nothing in a uniform plane. -/
lemma prepareFrame_replicate (value : UInt16) (small : value ≤ 0x0fff) :
    prepareFrame (Vector.replicate pixels value) = Vector.replicate pixels value := by
  refine plane_ext fun pixel inside => ?_
  rw [pixelAt_prepareFrame _ inside, pixelAt_replicate _ (repairSource_inside _ inside),
    pixelAt_replicate _ inside]
  exact if_pos small

end GoodixSpi.Chicago
