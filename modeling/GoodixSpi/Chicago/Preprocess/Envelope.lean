import GoodixSpi.Chicago.Preprocess.State
import GoodixSpi.Lib.CArithmetic
import GoodixSpi.Lib.Envelope

/-! The candidate image: the centred source is smoothed and each pixel is scaled between two
envelopes, the lowest of the local maxima and the highest of the local minima around it. -/

namespace GoodixSpi.Chicago

open CArithmetic

/-! ### Smoothing -/

/-- The border pixels keep their values. -/
def smoothCentered (source : Plane) : Plane :=
  Vector.ofFn fun pixel =>
    let x := (pixel : ℕ) % imageWidth
    let y := (pixel : ℕ) / imageWidth
    if (1 ≤ y ∧ y + 1 < imageHeight) ∧ 1 ≤ x ∧ x + 1 < imageWidth then
      let sourceAt (index : ℕ) : UInt32 := (pixelAt source index).toUInt32
      let weightedSum : UInt32 :=
        sourceAt (pixel - imageWidth - 1) + 2 * sourceAt (pixel - imageWidth) +
          sourceAt (pixel - imageWidth + 1) + 2 * sourceAt (pixel - 1) + 4 * sourceAt pixel +
          2 * sourceAt (pixel + 1) + sourceAt (pixel + imageWidth - 1) +
          2 * sourceAt (pixel + imageWidth) + sourceAt (pixel + imageWidth + 1)
      ((weightedSum + 8) >>> 4).toUInt16
    else source.get pixel

/-! ### `goodix_chicago_preprocessor_build_local_envelopes` -/

/-- The pixels of the same row at most five columns away. -/
def crossRow (pixel : ℕ) : List ℕ :=
  (List.range 11).filterMap fun (step : ℕ) =>
    let neighborX : ℤ := (pixel % imageWidth : ℕ) + (step : ℤ) - 5
    if neighborX ≥ 0 ∧ neighborX < imageWidth then
      some (pixel / imageWidth * imageWidth + neighborX.toNat)
    else none

def crossColumn (pixel : ℕ) : List ℕ :=
  (List.range 11).filterMap fun (step : ℕ) =>
    let neighborY : ℤ := (pixel / imageWidth : ℕ) + (step : ℤ) - 5
    if neighborY ≥ 0 ∧ neighborY < imageHeight then
      some (neighborY.toNat * imageWidth + pixel % imageWidth)
    else none

def highestOf (value : ℕ → UInt16) (start : UInt16) (neighbors : List ℕ) : UInt16 :=
  neighbors.foldl (fun highest neighbor => max highest (value neighbor)) start

def lowestOf (value : ℕ → UInt16) (start : UInt16) (neighbors : List ℕ) : UInt16 :=
  neighbors.foldl (fun lowest neighbor => min lowest (value neighbor)) start

def localMaxAt (source : Plane) (pixel : ℕ) : UInt16 :=
  max (highestOf (pixelAt source) (pixelAt source pixel) (crossRow pixel))
    (highestOf (pixelAt source) (pixelAt source pixel) (crossColumn pixel))

def localMinAt (source : Plane) (pixel : ℕ) : UInt16 :=
  min (lowestOf (pixelAt source) (pixelAt source pixel) (crossRow pixel))
    (lowestOf (pixelAt source) (pixelAt source pixel) (crossColumn pixel))

/-- The local maxima and the local minima. -/
def buildLocalEnvelopes (source : Plane) : Plane × Plane :=
  (Vector.ofFn fun pixel => localMaxAt source pixel,
    Vector.ofFn fun pixel => localMinAt source pixel)

/-! ### `goodix_chicago_preprocessor_refine_envelopes` -/

/-- The diagonal neighbours inside the image. -/
def diagonalNeighbors (pixel : ℕ) : List ℕ :=
  ([-1, 1] : List ℤ).flatMap fun dy => ([-1, 1] : List ℤ).filterMap fun dx =>
    let neighborY : ℤ := (pixel / imageWidth : ℕ) + dy
    let neighborX : ℤ := (pixel % imageWidth : ℕ) + dx
    if neighborY < 0 ∨ neighborY ≥ imageHeight ∨ neighborX < 0 ∨ neighborX ≥ imageWidth then none
    else some (neighborY.toNat * imageWidth + neighborX.toNat)

/-- The refined minimum and the refined maximum. -/
def refineEnvelopes (localMax localMin : Plane) : Plane × Plane :=
  (Vector.ofFn fun pixel =>
      lowestOf (pixelAt localMax) (pixelAt localMax pixel) (diagonalNeighbors pixel),
    Vector.ofFn fun pixel =>
      highestOf (pixelAt localMin) (pixelAt localMin pixel) (diagonalNeighbors pixel))

/-! ### `build_candidate_internal` -/

structure CandidateRejectStats where
  active : Bool
  flatCount : ℕ
  histogram : List ℕ

/-- The two refined planes of a centred and smoothed source. -/
def candidateEnvelopes (centered : Plane) : Plane × Plane :=
  let envelopes := buildLocalEnvelopes centered
  refineEnvelopes envelopes.1 envelopes.2

/-- `refined_min[pixel] - refined_max[pixel]`. -/
def contrastRange (refined : Plane × Plane) (pixel : Fin pixels) : ℤ :=
  ((refined.1.get pixel).toNat : ℤ) - (refined.2.get pixel).toNat

/-- The same where the code reads it as unsigned. -/
def unsignedRange (refined : Plane × Plane) (pixel : Fin pixels) : UInt32 :=
  UInt32.ofInt (contrastRange refined pixel)

def normalizedContrast (centered : Plane) (refined : Plane × Plane) (pixel : Fin pixels) : ℤ :=
  if refined.1.get pixel = refined.2.get pixel then 0xff
  else
    quotient ((((centered.get pixel).toNat : ℤ) - (refined.2.get pixel).toNat) * 0xff)
      (contrastRange refined pixel)

def candidateValue (mask : Vector UInt8 pixels) (centered : Plane) (refined : Plane × Plane)
    (pixel : Fin pixels) : UInt8 :=
  if mask.get pixel = 0 then 0xff
  else UInt8.ofInt (0xff - max 0 (min 0xff (normalizedContrast centered refined pixel)))

def rejectHistogramBins : ℕ := 200

def rejectFlatRange : UInt32 := 150

def candidateRejectStats (mask : Vector UInt8 pixels) (refined : Plane × Plane) :
    CandidateRejectStats :=
  let enabled := (List.finRange pixels).filter fun pixel => mask.get pixel != 0
  let flatCount := enabled.countP fun pixel => unsignedRange refined pixel < rejectFlatRange
  let empty := List.replicate rejectHistogramBins 0
  if flatCount > pixels / 5 then
    { active := true
      flatCount := flatCount
      histogram := enabled.foldl (fun histogram pixel =>
        histogram.modify (min (unsignedRange refined pixel).toNat (rejectHistogramBins - 1))
          (· + 1)) empty }
  else ⟨false, flatCount, empty⟩

/-- The centred and smoothed source. -/
def candidateCentered (source : Plane) (mask : Vector UInt8 pixels) : Plane :=
  smoothCentered (Preprocessor.centerLocalMean source mask)

def buildCandidateInternal (source : Plane) (mask : Vector UInt8 pixels) :
    Vector UInt8 pixels × CandidateRejectStats :=
  let centered := candidateCentered source mask
  let refined := candidateEnvelopes centered
  (Vector.ofFn (candidateValue mask centered refined), candidateRejectStats mask refined)

/-! ### The envelopes do not cross -/

lemma toNat_max16 (a b : UInt16) : (max a b).toNat = max a.toNat b.toNat := by
  change (if a ≤ b then b else a).toNat = _
  split <;> rename_i le <;> rw [UInt16.le_iff_toNat_le] at le <;> omega

lemma toNat_min16 (a b : UInt16) : (min a b).toNat = min a.toNat b.toNat := by
  change (if a ≤ b then a else b).toNat = _
  split <;> rename_i le <;> rw [UInt16.le_iff_toNat_le] at le <;> omega

lemma toNat_highestOf (value : ℕ → UInt16) (start : UInt16) (neighbors : List ℕ) :
    (highestOf value start neighbors).toNat =
      neighbors.foldl (fun highest neighbor => max highest (value neighbor).toNat) start.toNat := by
  unfold highestOf
  induction neighbors generalizing start with
  | nil => rfl
  | cons neighbor rest ih => rw [List.foldl_cons, ih, toNat_max16, List.foldl_cons]

lemma toNat_lowestOf (value : ℕ → UInt16) (start : UInt16) (neighbors : List ℕ) :
    (lowestOf value start neighbors).toNat =
      neighbors.foldl (fun lowest neighbor => min lowest (value neighbor).toNat) start.toNat := by
  unfold lowestOf
  induction neighbors generalizing start with
  | nil => rfl
  | cons neighbor rest ih => rw [List.foldl_cons, ih, toNat_min16, List.foldl_cons]

/-- The pixels that the cross around a pixel reads. -/
def cross (pixel : ℕ) : Set ℕ := {other | other ∈ crossRow pixel ∨ other ∈ crossColumn pixel}

lemma localEnvelopes_enclose (source : Plane) :
    Envelope.Encloses (fun pixel => (pixelAt source pixel).toNat) cross
      (fun pixel => (localMinAt source pixel).toNat)
      fun pixel => (localMaxAt source pixel).toNat := by
  intro pixel other mem
  dsimp only
  unfold localMinAt localMaxAt
  rw [toNat_min16, toNat_max16, toNat_highestOf, toNat_highestOf, toNat_lowestOf, toNat_lowestOf]
  let value := fun pixel => (pixelAt source pixel).toNat
  rcases mem with row | column
  · exact ⟨(min_le_left _ _).trans (Envelope.foldl_min_le value _ row),
      (Envelope.le_foldl_max value _ row).trans (le_max_left _ _)⟩
  · exact ⟨(min_le_right _ _).trans (Envelope.foldl_min_le value _ column),
      (Envelope.le_foldl_max value _ column).trans (le_max_right _ _)⟩

lemma mem_crossRow {pixel x : ℕ} (inside : x < imageWidth) (left : pixel % imageWidth ≤ x + 5)
    (right : x ≤ pixel % imageWidth + 5) :
    pixel / imageWidth * imageWidth + x ∈ crossRow pixel := by
  refine List.mem_filterMap.mpr ⟨x + 5 - pixel % imageWidth, List.mem_range.mpr (by omega), ?_⟩
  dsimp only
  rw [if_pos (by omega)]
  congr
  omega

lemma mem_crossColumn {pixel y : ℕ} (inside : y < imageHeight) (top : pixel / imageWidth ≤ y + 5)
    (bottom : y ≤ pixel / imageWidth + 5) :
    y * imageWidth + pixel % imageWidth ∈ crossColumn pixel := by
  refine List.mem_filterMap.mpr ⟨y + 5 - pixel / imageWidth, List.mem_range.mpr (by omega), ?_⟩
  dsimp only
  rw [if_pos (by omega)]
  congr
  omega

/-- At most one row and one column away. -/
structure Beside (pixel other : ℕ) : Prop where
  inside : other < pixels
  left : pixel % imageWidth ≤ other % imageWidth + 1
  right : other % imageWidth ≤ pixel % imageWidth + 1
  top : pixel / imageWidth ≤ other / imageWidth + 1
  bottom : other / imageWidth ≤ pixel / imageWidth + 1

lemma beside_of_mem_diagonalNeighbors {pixel other : ℕ} (mem : other ∈ diagonalNeighbors pixel) :
    Beside pixel other := by
  obtain ⟨dy, vertical, row⟩ := List.mem_flatMap.mp mem
  obtain ⟨dx, horizontal, found⟩ := List.mem_filterMap.mp row
  have rows : dy = -1 ∨ dy = 1 := by simpa using vertical
  have columns : dx = -1 ∨ dx = 1 := by simpa using horizontal
  dsimp only at found
  split at found
  · cases found
  · rw [← Option.some.inj found]
    simp only [imageWidth, imageHeight] at *
    constructor <;> simp only [imageWidth, imageHeight, pixels] <;> omega

/-- The column of the one and the row of the other meet in both crosses. -/
lemma cross_meet {pixel a b : ℕ} (besideA : Beside pixel a) (besideB : Beside pixel b) :
    (cross a ∩ cross b).Nonempty := by
  obtain ⟨insideA, leftA, rightA, topA, bottomA⟩ := besideA
  obtain ⟨insideB, leftB, rightB, topB, bottomB⟩ := besideB
  have row : b / imageWidth < imageHeight := by
    simp only [imageWidth, imageHeight, pixels] at *
    omega
  refine ⟨b / imageWidth * imageWidth + a % imageWidth, Or.inr ?_, Or.inl ?_⟩
  · exact mem_crossColumn row (by omega) (by omega)
  · exact mem_crossRow (Nat.mod_lt a (by decide)) (by omega) (by omega)

lemma beside_self {pixel : ℕ} (inside : pixel < pixels) : Beside pixel pixel :=
  ⟨inside, by omega, by omega, by omega, by omega⟩

lemma pixelAt_ofFn (value : ℕ → UInt16) {pixel : ℕ} (inside : pixel < pixels) :
    pixelAt (Vector.ofFn fun pixel : Fin pixels => value pixel) pixel = value pixel := by
  rw [pixelAt_eq _ inside, Vector.getElem_ofFn]

/-- The values of a plane made of them, read at pixels of the image. -/
lemma foldl_pixelAt_ofFn (pick : ℕ → ℕ → ℕ) (value : ℕ → UInt16) {neighbors : List ℕ}
    (inside : ∀ neighbor ∈ neighbors, neighbor < pixels) (start : ℕ) :
    neighbors.foldl (fun best neighbor =>
        pick best (pixelAt (Vector.ofFn fun pixel : Fin pixels => value pixel) neighbor).toNat)
        start =
      neighbors.foldl (fun best neighbor => pick best (value neighbor).toNat) start :=
  List.foldl_ext _ _ _ fun best neighbor mem => by rw [pixelAt_ofFn value (inside neighbor mem)]

lemma candidateEnvelopes_le (centered : Plane) (pixel : Fin pixels) :
    (candidateEnvelopes centered).2.get pixel ≤ (candidateEnvelopes centered).1.get pixel := by
  have inside : ∀ neighbor ∈ diagonalNeighbors pixel, neighbor < pixels :=
    fun neighbor mem => (beside_of_mem_diagonalNeighbors mem).inside
  have beside : ∀ a ∈ (pixel : ℕ) :: diagonalNeighbors pixel, Beside pixel a := by
    intro a mem
    rcases List.mem_cons.mp mem with rfl | diagonal
    · exact beside_self pixel.isLt
    · exact beside_of_mem_diagonalNeighbors diagonal
  unfold candidateEnvelopes buildLocalEnvelopes refineEnvelopes
  dsimp only
  rw [Collect.get_ofFn, Collect.get_ofFn, UInt16.le_iff_toNat_le, toNat_highestOf, toNat_lowestOf,
    foldl_pixelAt_ofFn max _ inside, foldl_pixelAt_ofFn min _ inside, pixelAt_ofFn _ pixel.isLt,
    pixelAt_ofFn _ pixel.isLt]
  exact Envelope.foldl_max_le_foldl_min (localEnvelopes_enclose centered) fun a memA b memB =>
    cross_meet (beside a memA) (beside b memB)

lemma unsignedRange_toNat {refined : Plane × Plane} {pixel : Fin pixels}
    (ordered : refined.2.get pixel ≤ refined.1.get pixel) :
    ((unsignedRange refined pixel).toNat : ℤ) = contrastRange refined pixel := by
  have le := UInt16.le_iff_toNat_le.mp ordered
  have small := (refined.1.get pixel).toNat_lt
  unfold unsignedRange contrastRange
  rw [UInt32.ofInt, UInt32.toNat_ofNat']
  omega

/-- On every plane the refined minimum is not below the refined maximum; so the range between them
is never negative, stays itself when it is read as unsigned, and is positive where it divides. -/
theorem refined_envelopes_ordered (plane : Plane) (pixel : Fin pixels) :
    (candidateEnvelopes plane).2.get pixel ≤ (candidateEnvelopes plane).1.get pixel ∧
      0 ≤ contrastRange (candidateEnvelopes plane) pixel ∧
      ((unsignedRange (candidateEnvelopes plane) pixel).toNat : ℤ) =
        contrastRange (candidateEnvelopes plane) pixel ∧
      ((candidateEnvelopes plane).1.get pixel ≠ (candidateEnvelopes plane).2.get pixel →
        0 < contrastRange (candidateEnvelopes plane) pixel) := by
  have ordered := candidateEnvelopes_le plane pixel
  have le := UInt16.le_iff_toNat_le.mp ordered
  refine ⟨ordered, ?_, unsignedRange_toNat ordered, fun differ => ?_⟩
  · unfold contrastRange
    omega
  · have apart := mt UInt16.toNat_inj.mp differ
    unfold contrastRange
    omega

end GoodixSpi.Chicago
