import GoodixSpi.Chicago.Preprocess.PromotionMask
import GoodixSpi.Chicago.Preprocess.Filter

/-! The steepest difference around a pixel, downwards and upwards, and its smoothed maximum. -/

namespace GoodixSpi.Chicago

abbrev noDirection : UInt8 := 0xff

/-- Left, right, up, down, up-left, down-left, up-right, down-right. -/
def deltaX : List ℤ := [-1, 1, 0, 0, -1, -1, 1, 1]

def deltaY : List ℤ := [0, 0, -1, 1, -1, 1, -1, 1]

/-- The neighbour in a direction, inside the image. -/
def neighborAt (pixel direction : ℕ) : Option ℕ :=
  let neighborX : ℤ := (pixel % imageWidth : ℕ) + deltaX.getD direction 0
  let neighborY : ℤ := (pixel / imageWidth : ℕ) + deltaY.getD direction 0
  if neighborX < 0 ∨ neighborX ≥ imageWidth ∨ neighborY < 0 ∨ neighborY ≥ imageHeight then none
  else some (neighborY.toNat * imageWidth + neighborX.toNat)

/-- One entry of a gradient plane and of its direction plane. -/
structure GradientCell where
  gradient : UInt16
  direction : UInt8

def GradientCell.empty : GradientCell := ⟨0, noDirection⟩

/-- Only a strictly larger difference replaces the entry. -/
def GradientCell.offer (cell : GradientCell) (difference : ℤ) (direction : ℕ) : GradientCell :=
  if difference > cell.gradient.toNat then ⟨UInt16.ofInt difference, UInt8.ofNat direction⟩
  else cell

structure PixelGradients where
  falling : GradientCell
  rising : GradientCell

/-- `(gint) secondary[pixel] - secondary[neighbor]`. -/
def fallTo (secondary : Plane) (pixel neighbor : ℕ) : ℤ :=
  ((pixelAt secondary pixel).toNat : ℤ) - (pixelAt secondary neighbor).toNat

def PixelGradients.visit (secondary : Plane) (inputMask : PixelMask) (pixel : ℕ)
    (cells : PixelGradients) (direction : ℕ) : PixelGradients :=
  match neighborAt pixel direction with
  | none => cells
  | some neighbor =>
    if maskAt inputMask neighbor = 0 then cells
    else
      let difference := fallTo secondary pixel neighbor
      ⟨cells.falling.offer difference direction, cells.rising.offer (-difference) direction⟩

def pixelGradients (secondary : Plane) (inputMask : PixelMask) (pixel : ℕ) : PixelGradients :=
  if maskAt inputMask pixel = 0 then ⟨.empty, .empty⟩
  else
    (List.range 8).foldl (PixelGradients.visit secondary inputMask pixel) ⟨.empty, .empty⟩

structure ResolutionGradients where
  falling : Plane
  fallingDirections : PixelMask
  rising : Plane
  risingDirections : PixelMask
  mean : UInt32

/-- A cell with a direction counts in the mean. -/
def GradientCell.tally (cell : GradientCell) (totals : UInt32 × UInt32) : UInt32 × UInt32 :=
  if cell.direction ≠ noDirection then (totals.1 + cell.gradient.toUInt32, totals.2 + 1) else totals

/-- `goodix_chicago_preprocessor_build_resolution_gradients`. -/
def buildResolutionGradients (secondary : Plane) (inputMask : PixelMask) : ResolutionGradients :=
  let cells (pixel : Fin pixels) := pixelGradients secondary inputMask pixel
  let totals := (List.finRange pixels).foldl (fun totals pixel =>
    if inputMask.get pixel = 0 then totals
    else (cells pixel).rising.tally ((cells pixel).falling.tally totals)) (0, 1)
  { falling := Vector.ofFn fun pixel => (cells pixel).falling.gradient
    fallingDirections := Vector.ofFn fun pixel => (cells pixel).falling.direction
    rising := Vector.ofFn fun pixel => (cells pixel).rising.gradient
    risingDirections := Vector.ofFn fun pixel => (cells pixel).rising.direction
    mean := (totals.1 + (totals.2 >>> 1)) / totals.2 }

/-- `sum >> 16` over three samples. -/
def thirdSum (sample : Fin 3 → UInt16) : UInt16 :=
  let sum : UInt64 :=
    (List.finRange 3).foldl (fun sum tap => sum + ((sample tap).toUInt32 * 0x5555).toUInt64) 0
  (sum >>> 16).toUInt16

/-- `filter_resolution_gradient_maximum`. -/
def filterResolutionGradientMaximum (falling rising : Plane) : Plane :=
  let maximum : Plane := Vector.ofFn fun pixel => max (falling.get pixel) (rising.get pixel)
  let horizontal : Plane := Vector.ofFn fun pixel => thirdSum fun tap =>
    pixelAt maximum ((pixel : ℕ) / imageWidth * imageWidth +
      temporalReflect101 (((pixel : ℕ) % imageWidth : ℕ) + (tap : ℕ) - 1) imageWidth)
  Vector.ofFn fun pixel => thirdSum fun tap =>
    pixelAt horizontal (temporalReflect101 (((pixel : ℕ) / imageWidth : ℕ) + (tap : ℕ) - 1)
      imageHeight * imageWidth + (pixel : ℕ) % imageWidth)

/-- `goodix_chicago_preprocessor_build_resolution_filtered_gradient`. -/
def buildResolutionFilteredGradient (secondary : Plane) (inputMask : PixelMask) : Plane :=
  let gradients := buildResolutionGradients secondary inputMask
  filterResolutionGradientMaximum gradients.falling gradients.rising

/-! ### What an entry says -/

lemma neighborAt_inside {pixel direction neighbor : ℕ}
    (near : neighborAt pixel direction = some neighbor) : neighbor < pixels := by
  simp only [neighborAt, Option.ite_none_left_eq_some, Option.some.injEq] at near
  obtain ⟨inside, rfl⟩ := near
  simp only [pixels, imageWidth, imageHeight] at inside ⊢
  omega

/-- An entry is empty, or it leads to a neighbour of the mask, higher by the gradient. -/
def Leads (inputMask : PixelMask) (level : ℕ → ℤ) (pixel : ℕ) (cell : GradientCell) : Prop :=
  cell = .empty ∨ ∃ direction < 8, ∃ neighbor, cell.direction = UInt8.ofNat direction ∧
    neighborAt pixel direction = some neighbor ∧ maskAt inputMask neighbor ≠ 0 ∧
    level neighbor = level pixel + cell.gradient.toNat ∧ 0 < cell.gradient.toNat

variable {inputMask : PixelMask} {level : ℕ → ℤ} {pixel : ℕ}

lemma Leads.offer {cell : GradientCell} (leads : Leads inputMask level pixel cell)
    {direction neighbor : ℕ} (small : direction < 8)
    (near : neighborAt pixel direction = some neighbor) (enabled : maskAt inputMask neighbor ≠ 0)
    {difference : ℤ} (rise : level neighbor = level pixel + difference)
    (narrow : difference < 65536) :
    Leads inputMask level pixel (cell.offer difference direction) := by
  unfold GradientCell.offer
  split
  · rename_i larger
    have fits : ((UInt16.ofInt difference).toNat : ℤ) = difference := by
      rw [UInt16.ofInt, UInt16.toNat_ofNat']
      omega
    exact Or.inr ⟨direction, small, neighbor, rfl, near, enabled, by rw [rise, fits], by
      rw [← Int.natCast_pos, fits]
      omega⟩
  · exact leads

/-- Both entries of a pixel lead: the rising one up, the falling one down. -/
lemma pixelGradients_lead (secondary : Plane) (inputMask : PixelMask) (pixel : ℕ) :
    Leads inputMask (fun v => -((pixelAt secondary v).toNat : ℤ)) pixel
        (pixelGradients secondary inputMask pixel).falling ∧
      Leads inputMask (fun v => (pixelAt secondary v).toNat) pixel
        (pixelGradients secondary inputMask pixel).rising := by
  unfold pixelGradients
  split
  · exact ⟨Or.inl rfl, Or.inl rfl⟩
  · refine List.foldlRecOn (List.range 8) _ (motive := fun (cells : PixelGradients) =>
      Leads inputMask (fun v => -((pixelAt secondary v).toNat : ℤ)) pixel cells.falling ∧
        Leads inputMask (fun v => (pixelAt secondary v).toNat) pixel cells.rising)
      ⟨Or.inl rfl, Or.inl rfl⟩ ?_
    rintro cells ⟨falling, rising⟩ direction small
    rw [List.mem_range] at small
    unfold PixelGradients.visit
    split
    · exact ⟨falling, rising⟩
    · rename_i neighbor near
      split
      · exact ⟨falling, rising⟩
      · rename_i enabled
        have here := (pixelAt secondary pixel).toNat_lt
        have there := (pixelAt secondary neighbor).toNat_lt
        exact ⟨falling.offer small near enabled (by simp only [fallTo]; omega)
            (by simp only [fallTo]; omega),
          rising.offer small near enabled (by simp only [fallTo]; omega)
            (by simp only [fallTo]; omega)⟩

end GoodixSpi.Chicago
