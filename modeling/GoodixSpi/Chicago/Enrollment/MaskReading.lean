import GoodixSpi.Chicago.Enrollment.MaskCells

/-! The two comparisons read different blocks of the coarse mask for one cell. The configuration-one
counts read the block that the cell lies in. The relation metrics read one of the first four rows of
blocks, so that they read the right one only for masks of a particular shape. -/

namespace GoodixSpi.Chicago

open CArithmetic

/-! ### The part of the old print -/

namespace Comparison

def coveredCells (self : Comparison) : List (ℕ × ℕ) := self.coveredPixels.map self.cell

/-- Where the old print decides by a bit for each cell, the counted cells are the covered ones with
that bit. -/
lemma cells_eq_filter {self : Comparison} {bit : ℕ → ℕ → Bool}
    (decides : ∀ pixel ∈ windowPixels self.window,
      self.has pixel = bit (self.cell pixel).1 (self.cell pixel).2) :
    self.cells = self.coveredCells.filter fun cell => bit cell.1 cell.2 := by
  unfold cells countedPixels coveredCells
  rw [List.filter_map]
  congr 1
  apply List.filter_congr
  intro pixel covered
  exact decides pixel (List.mem_filter.mp covered).1

end Comparison

/-- The cells that the new print covers, whatever the old one is. -/
def relationCovers (new : MetricData) (transform : Transform) : List (ℕ × ℕ) :=
  ((relationComparison new .zero transform).map Comparison.coveredCells).getD []

def config1Covers (newPacked : MetricMap) (newMask : MetricMask) (transform : Transform) :
    List (ℕ × ℕ) :=
  ((config1Comparison newPacked MetricData.zero.primary newMask MetricData.zero.coarseMask
    transform).map Comparison.coveredCells).getD []

/-- The relation metrics count the covered cells whose read block is set. -/
lemma relationCells_eq (new old : MetricData) (transform : Transform) :
    relationCells new old transform =
      (relationCovers new transform).filter fun cell =>
        readBlockBit old.coarseMask cell.1 cell.2 := by
  unfold relationCells relationCovers relationComparison
  cases is : metricWindow transform with
  | none => rfl
  | some window =>
    apply Comparison.cells_eq_filter
    intro pixel mem
    obtain ⟨index, -, -⟩ := Comparison.oldIndex_eq (metricWindow_inside is) mem
    unfold Comparison.has
    rw [index, Bool.eq_iff_iff, Bool.and_eq_true, bne_iff_ne]
    exact (and_iff_right (decide_eq_true (metricPlane_lt _ _))).trans
      (expandMetricMask_ne_zero _ _ _)

lemma relationCovers_inside {new : MetricData} {transform : Transform} {cell : ℕ × ℕ}
    (covered : cell ∈ relationCovers new transform) : cell.1 < 40 ∧ cell.2 < 32 := by
  unfold relationCovers relationComparison at covered
  cases is : metricWindow transform with
  | none =>
    rw [is] at covered
    cases covered
  | some window =>
    rw [is] at covered
    obtain ⟨pixel, mem, rfl⟩ := List.mem_map.mp covered
    exact (Comparison.oldIndex_eq (metricWindow_inside is) (List.mem_filter.mp mem).1).2

/-- The configuration-one counts count the covered cells whose own block is set. -/
lemma config1Cells_eq (newPacked oldPacked : MetricMap) (newMask oldMask : MetricMask)
    (transform : Transform) : config1Cells newPacked oldPacked newMask oldMask transform =
      (config1Covers newPacked newMask transform).filter fun cell =>
        sensorBlockBit oldMask (2 * cell.1) (2 * cell.2) := by
  unfold config1Cells config1Covers config1Comparison
  dsimp only
  cases is : metricWindow (halfTranslated transform) with
  | none => rfl
  | some window =>
    dsimp only [Option.bind_some]
    cases inverseTransform (halfTranslated transform) _ _ with
    | none => rfl
    | some inverse =>
      refine @Comparison.cells_eq_filter _ (fun x y => sensorBlockBit oldMask (2 * x) (2 * y)) ?_
      intro pixel mem
      obtain ⟨index, column, -⟩ := Comparison.oldIndex_eq (metricWindow_inside is) mem
      unfold Comparison.has
      rw [index, Bool.eq_iff_iff, Bool.and_eq_true, bne_iff_ne]
      exact (and_iff_right (decide_eq_true (metricPlane_lt _ _))).trans
        (expandConfig1Mask_ne_zero _ column)

/-! ### Whole pixels -/

lemma shiftRight_whole (s : ℤ) : shiftRight (0x400 * s) 10 = s :=
  Int.mul_ediv_cancel_left s (by decide)

lemma bilinear_whole {source : ℤ → ℕ} {base : ℤ} (byte : source base < 0x100) :
    bilinear source base 0 0 = source base := by
  unfold bilinear shiftRight
  dsimp only
  omega

section

variable {border : ℤ} {source : ℤ → ℕ} {inverse : InverseTransform} {x y : ℕ} {sx sy : ℤ}

/-- A pixel that is moved by whole pixels to the interior keeps its value. -/
lemma warpPixel_interior (at' : inverse.locate x y = (0x400 * sx, 0x400 * sy))
    (left : border ≤ sx) (right : sx + 1 < 40 - border) (top : border ≤ sy)
    (bottom : sy + 1 < 32 - border) (byte : source (sy * 40 + sx) < 0x100) :
    warpPixel border source inverse x y = source (sy * 40 + sx) := by
  have noFraction : ∀ s : ℤ, 0x400 * s - s * 0x400 = 0 := fun s => by omega
  unfold warpPixel
  rw [at']
  dsimp only
  rw [shiftRight_whole, shiftRight_whole, if_pos ⟨by omega, by omega, by omega, by omega⟩,
    if_pos ⟨by omega, by omega, by omega, by omega⟩, noFraction, noFraction]
  exact bilinear_whole byte

/-- A pixel that is moved to the last inner column or row is the mean of what lies inside. -/
lemma warpPixel_edge (at' : inverse.locate x y = (0x400 * sx, 0x400 * sy))
    (left : border ≤ sx) (column : sx < 40 - border) (top : border ≤ sy) (row : sy < 32 - border)
    (edge : sx + 1 = 40 - border ∨ sy + 1 = 32 - border) :
    warpPixel border source inverse x y =
      meanSample [(true, source (sy * 40 + sx)),
        (!decide (sy + 1 ≥ 32 - border), source (sy * 40 + sx + 40)),
        (!decide (sx + 1 ≥ 40 - border), source (sy * 40 + sx + 1)),
        (!decide (sx + 1 ≥ 40 - border) && !decide (sy + 1 ≥ 32 - border),
          source (sy * 40 + sx + 41))] := by
  have notLeft : decide (sx < border) = false := decide_eq_false (by omega)
  have notTop : decide (sy < border) = false := decide_eq_false (by omega)
  unfold warpPixel
  rw [at']
  dsimp only
  rw [shiftRight_whole, shiftRight_whole, if_pos ⟨by omega, by omega, by omega, by omega⟩,
    if_neg (by omega), notLeft, notTop]
  simp only [Bool.not_false, Bool.true_and, Bool.and_true]

/-- In the last column the two samples are the pixel and the one below it. -/
lemma warpPixel_right (at' : inverse.locate x y = (0x400 * sx, 0x400 * sy))
    (left : border ≤ sx) (right : sx + 1 = 40 - border) (top : border ≤ sy)
    (bottom : sy + 1 < 32 - border) :
    warpPixel border source inverse x y =
      (source (sy * 40 + sx) + source (sy * 40 + sx + 40)) / 2 := by
  have isRight : decide (sx + 1 ≥ 40 - border) = true := decide_eq_true (by omega)
  have notBottom : decide (sy + 1 ≥ 32 - border) = false := decide_eq_false (by omega)
  rw [warpPixel_edge at' left (by omega) top (by omega) (.inl right), isRight, notBottom]
  simp [meanSample]

/-- In the last row they are the pixel and the one on its right. -/
lemma warpPixel_bottom (at' : inverse.locate x y = (0x400 * sx, 0x400 * sy))
    (left : border ≤ sx) (right : sx + 1 < 40 - border) (top : border ≤ sy)
    (bottom : sy + 1 = 32 - border) :
    warpPixel border source inverse x y =
      (source (sy * 40 + sx) + source (sy * 40 + sx + 1)) / 2 := by
  have notRight : decide (sx + 1 ≥ 40 - border) = false := decide_eq_false (by omega)
  have isBottom : decide (sy + 1 ≥ 32 - border) = true := decide_eq_true (by omega)
  rw [warpPixel_edge at' left (by omega) top (by omega) (.inr bottom), notRight, isBottom]
  simp [meanSample]

lemma warpPixel_corner (at' : inverse.locate x y = (0x400 * sx, 0x400 * sy))
    (right : sx + 1 = 40 - border) (top : border ≤ sy) (bottom : sy + 1 = 32 - border) :
    warpPixel border source inverse x y = source (sy * 40 + sx) := by
  have isRight : decide (sx + 1 ≥ 40 - border) = true := decide_eq_true (by omega)
  have isBottom : decide (sy + 1 ≥ 32 - border) = true := decide_eq_true (by omega)
  rw [warpPixel_edge at' (by omega) (by omega) top (by omega) (.inl right), isRight, isBottom]
  simp [meanSample]

end

/-- A transform that moves by whole pixels. -/
def InverseTransform.shift (dx dy : ℤ) : InverseTransform :=
  ⟨0x400, 0, 0x400 * dx, 0, 0x400, 0x400 * dy⟩

lemma locate_shift {dx dy : ℤ} {x y : ℕ} (xSmall : |(x : ℤ) + dx| < 2 ^ 20)
    (ySmall : |(y : ℤ) + dy| < 2 ^ 20) :
    (InverseTransform.shift dx dy).locate x y = (0x400 * (x + dx), 0x400 * (y + dy)) := by
  rw [abs_lt] at xSmall ySmall
  unfold InverseTransform.shift InverseTransform.locate
  dsimp only
  rw [wrap32_of_range (by omega) (by omega), wrap32_of_range (by omega) (by omega)]
  congr 1 <;> omega

lemma metricSourceByte_inside {source : ℕ → ℕ} {sourceBytes index : ℕ}
    (inside : index < sourceBytes) : metricSourceByte source sourceBytes index = source index := by
  unfold metricSourceByte
  rw [if_pos ⟨by omega, by omega⟩, Int.toNat_natCast]

/-! ### The masks for which the read block is the right one -/

/-- The bit of a block. -/
def blockBit (mask : MetricMask) (blockX blockY : ℕ) : Bool := bitAt mask (blockY * 20 + blockX)

lemma sensorBlockBit_eq (mask : MetricMask) (x y : ℕ) :
    sensorBlockBit mask (2 * x) (2 * y) = blockBit mask (x / 2) (y / 2) := by
  have column : 2 * x / 4 = x / 2 := by omega
  have row : 2 * y / 4 = y / 2 := by omega
  rw [sensorBlockBit, blockBit, column, row]

/-- Two rows of cells are one row of the expanded mask. -/
lemma readBlockBit_eq (mask : MetricMask) {x : ℕ} (y : ℕ) (inside : x < 40) :
    readBlockBit mask x y = blockBit mask (y % 2 * 10 + x / 4) (y / 8) := by
  have row : (40 * y + x) / 80 / 4 = y / 8 := by omega
  have column : (40 * y + x) % 80 / 4 = y % 2 * 10 + x / 4 := by omega
  rw [readBlockBit, blockBit, row, column]

/-- Every block is set whose two read blocks are not both clear. -/
def ClosedUnderReading (mask : MetricMask) : Prop :=
  ∀ blockX < 20, ∀ blockY < 16, ∀ half < 2,
    blockBit mask (half * 10 + blockX / 2) (blockY / 4) = true → blockBit mask blockX blockY = true

lemma closedUnderReading_iff (mask : MetricMask) :
    ClosedUnderReading mask ↔ ∀ x < 40, ∀ y < 32, readBlockBit mask x y = true →
      sensorBlockBit mask (2 * x) (2 * y) = true := by
  constructor
  · intro closed x hx y hy read
    rw [readBlockBit_eq mask y hx] at read
    rw [sensorBlockBit_eq]
    apply closed (x / 2) (by omega) (y / 2) (by omega) (y % 2) (by omega)
    rwa [Nat.div_div_eq_div_mul, Nat.div_div_eq_div_mul]
  · intro right blockX hx blockY hy half hHalf read
    have bit := right (2 * blockX) (by omega) (2 * blockY + half) (by omega)
    rw [readBlockBit_eq mask _ (by omega), sensorBlockBit_eq] at bit
    have cells : 2 * blockX / 2 = blockX ∧ (2 * blockY + half) / 2 = blockY ∧
        (2 * blockY + half) % 2 = half ∧ 2 * blockX / 4 = blockX / 2 ∧
        (2 * blockY + half) / 8 = blockY / 4 := by omega
    rw [cells.1, cells.2.1, cells.2.2.1, cells.2.2.2.1, cells.2.2.2.2] at bit
    exact bit read

/-- A print whose plane is blank and whose mask is full. -/
def fullPrint : MetricData := { MetricData.zero with coarseMask := Vector.replicate _ 0xff }

lemma bitAt_replicate (length : ℕ) (byte : UInt8) {bit : ℕ} (inside : bit < 8 * length) :
    bitAt (Vector.replicate length byte) bit = byte.toNat.testBit (bit % 8) := by
  have listed : bit / 8 < (Vector.replicate length byte).toList.length := by
    rw [Vector.length_toList]
    omega
  unfold bitAt
  rw [List.getD_eq_getElem _ _ listed, Vector.getElem_toList, Vector.getElem_replicate]

lemma metricPlane_blank {index : ℕ} (inside : index < 1280) :
    metricPlane fullPrint.primary index = 0 := by
  have clear : bitAt fullPrint.primary index = false :=
    (bitAt_replicate metricMapPackedBytes 0 inside).trans (Nat.zero_testBit _)
  rw [metricPlane, clear]
  rfl

lemma expandMetricMask_full {index : ℕ} (inside : index < 5120) :
    expandMetricMask fullPrint.coarseMask index = 1 := by
  have table : ∀ k < 8, (0xff : UInt8).toNat.testBit k = true := by decide
  have isSet : bitAt fullPrint.coarseMask (index / 80 / 4 * 20 + index % 80 / 4) = true := by
    refine (bitAt_replicate metricMaskPackedBytes 0xff ?_).trans
      (table _ (Nat.mod_lt _ (by decide)))
    change index / 80 / 4 * 20 + index % 80 / 4 < 8 * 40
    omega
  rw [expandMetricMask, if_pos isSet]

/-- The full print covers what it is moved onto. -/
lemma covered_of_shift {transform : Transform} {window : Window} {dx dy : ℤ}
    (is : metricWindow transform = some window)
    (inverts : (inverseTransform transform ((transform.get 2).toInt - window.minimumX * 0x100)
      ((transform.get 5).toInt - window.minimumY * 0x100)).getD .default = .shift dx dy)
    {x y : ℕ} (column : x < window.width) (row : y < window.height)
    (horizontal : 4 ≤ x + dx ∧ x + dx < 35) (vertical : 4 ≤ y + dy ∧ y + dy < 27) :
    ((window.minimumX + x).toNat, (window.minimumY + y).toNat) ∈
      relationCovers fullPrint transform := by
  obtain ⟨sx, isX⟩ := Int.eq_ofNat_of_zero_le (a := x + dx) (by omega)
  obtain ⟨sy, isY⟩ := Int.eq_ofNat_of_zero_le (a := y + dy) (by omega)
  have at' := @locate_shift dx dy x y (by rw [abs_lt]; omega) (by rw [abs_lt]; omega)
  have index : ((sy : ℤ) * 40 + sx) = ((sy * 40 + sx : ℕ) : ℤ) := by push_cast; rfl
  rw [isX, isY] at at'
  rw [isX] at horizontal
  rw [isY] at vertical
  have blank : metricSourceByte (metricPlane fullPrint.primary) 1280 (sy * 40 + sx) = 0 := by
    rw [index, metricSourceByte_inside (by omega), metricPlane_blank (by omega)]
  have full : metricSourceByte (expandMetricMask fullPrint.coarseMask) 5120 (sy * 40 + sx) = 1 := by
    rw [index, metricSourceByte_inside (by omega), expandMetricMask_full (by omega)]
  have plane := @warpPixel_interior 4 (metricSourceByte (metricPlane fullPrint.primary) 1280) _ _ _
    _ _ at' (by omega) (by omega) (by omega) (by omega) (by rw [blank]; decide)
  have mask := @warpPixel_interior 4 (metricSourceByte (expandMetricMask fullPrint.coarseMask) 5120)
    _ _ _ _ _ at' (by omega) (by omega) (by omega) (by omega) (by rw [full]; decide)
  rw [blank] at plane
  rw [full] at mask
  unfold relationCovers relationComparison
  rw [is]
  dsimp only [Option.map_some, Option.getD_some]
  rw [inverts]
  apply List.mem_map.mpr
  refine ⟨(x, y), List.mem_filter.mpr ⟨mem_windowPixels.mpr ⟨column, row⟩, ?_⟩, rfl⟩
  apply (Bool.and_eq_true _ _).mpr
  constructor
  · exact decide_eq_true (plane.trans_lt (by decide))
  · exact bne_iff_ne.mpr (mask.trans_ne (by decide))

def moved (translationX translationY : Int32) : Transform :=
  #v[0x100, 0, translationX, 0, 0x100, translationY]

lemma inverseTransform_moved (translationX translationY : Int32) {dx dy : ℤ}
    (smallX : |dx| < 2 ^ 20) (smallY : |dy| < 2 ^ 20) :
    inverseTransform (moved translationX translationY) (-(0x100 * dx)) (-(0x100 * dy)) =
      some (.shift dx dy) := by
  have a : ((moved translationX translationY).get 0).toInt = 0x100 := by
    change (0x100 : Int32).toInt = 0x100
    decide
  have b : ((moved translationX translationY).get 1).toInt = 0 := by
    change (0 : Int32).toInt = 0
    decide
  have c : ((moved translationX translationY).get 3).toInt = 0 := by
    change (0 : Int32).toInt = 0
    decide
  have d : ((moved translationX translationY).get 4).toInt = 0x100 := by
    change (0x100 : Int32).toInt = 0x100
    decide
  have determinant : transformDeterminant (moved translationX translationY) = 0x10000 := by
    unfold transformDeterminant
    rw [a, b, c, d]
    decide
  have whole : ∀ s : ℤ, |s| < 2 ^ 20 →
      wrap32 (quotient (0x10000 * (0x400 * s)) 0x10000) = 0x400 * s := fun s small => by
      rw [abs_lt] at small
      rw [quotient, Int.mul_tdiv_cancel_left _ (by decide)]
      exact wrap32_of_range (by omega) (by omega)
  have x : (-(0x100 * dy) * 0 - 0x100 * -(0x100 * dx)) * 0x400 = 0x10000 * (0x400 * dx) := by omega
  have y : (0 * -(0x100 * dx) - -(0x100 * dy) * 0x100) * 0x400 = 0x10000 * (0x400 * dy) := by omega
  have one : wrap32 (quotient (0x100 * 0x40000) 0x10000) = 0x400 := by decide
  have none : wrap32 (quotient (0 * -0x40000) 0x10000) = 0 := by decide
  unfold inverseTransform
  dsimp only
  rw [determinant, a, b, c, d, if_neg (by decide), x, y, whole dx smallX, whole dy smallY, one,
    none]
  rfl

lemma covered_of_moved {translationX translationY : Int32} {window : Window} {dx dy : ℤ}
    (is : metricWindow (moved translationX translationY) = some window)
    (byX : translationX.toInt - window.minimumX * 0x100 = -(0x100 * dx))
    (byY : translationY.toInt - window.minimumY * 0x100 = -(0x100 * dy)) {x y : ℕ}
    (column : x < window.width) (row : y < window.height)
    (horizontal : 4 ≤ x + dx ∧ x + dx < 35) (vertical : 4 ≤ y + dy ∧ y + dy < 27)
    (small : |dx| < 2 ^ 20 ∧ |dy| < 2 ^ 20) :
    ((window.minimumX + x).toNat, (window.minimumY + y).toNat) ∈
      relationCovers fullPrint (moved translationX translationY) := by
  have third : (moved translationX translationY).get 2 = translationX := rfl
  have last : (moved translationX translationY).get 5 = translationY := rfl
  apply covered_of_shift is _ column row horizontal vertical
  rw [third, last, byX, byY, inverseTransform_moved _ _ small.1 small.2]
  rfl

/-- Every cell of the old print is covered by some print under some transform. -/
lemma exists_covers {x y : ℕ} (insideX : x < 40) (insideY : y < 32) :
    ∃ transform, (x, y) ∈ relationCovers fullPrint transform := by
  -- The outer cells are covered by prints that are moved away from them.
  rcases Nat.lt_or_ge x 20 with left | right
  · rcases Nat.lt_or_ge y 16 with above | below
    · have covered := @covered_of_moved (-1024) (-1024) ⟨0, 0, 36, 28⟩ 4 4 (by rfl) (by decide)
        (by decide) x y (by dsimp only; omega) (by dsimp only; omega) (by omega) (by omega)
        (by decide)
      exact ⟨_, by simpa using covered⟩
    · have covered := @covered_of_moved (-1024) 2048 ⟨0, 8, 36, 24⟩ 4 0 (by rfl) (by decide)
        (by decide) x (y - 8) (by dsimp only; omega) (by dsimp only; omega) (by omega) (by omega)
        (by decide)
      have row : (8 + ((y - 8 : ℕ) : ℤ)).toNat = y := by omega
      dsimp only at covered
      rw [row] at covered
      exact ⟨_, by simpa using covered⟩
  · rcases Nat.lt_or_ge y 16 with above | below
    · have covered := @covered_of_moved 2048 (-1024) ⟨8, 0, 32, 28⟩ 0 4 (by rfl) (by decide)
        (by decide) (x - 8) y (by dsimp only; omega) (by dsimp only; omega) (by omega) (by omega)
        (by decide)
      have column : (8 + ((x - 8 : ℕ) : ℤ)).toNat = x := by omega
      dsimp only at covered
      rw [column] at covered
      exact ⟨_, by simpa using covered⟩
    · have covered := @covered_of_moved 2048 2048 ⟨8, 8, 32, 24⟩ 0 0 (by rfl) (by decide)
        (by decide) (x - 8) (y - 8) (by dsimp only; omega) (by dsimp only; omega) (by omega)
        (by omega) (by decide)
      have column : (8 + ((x - 8 : ℕ) : ℤ)).toNat = x := by omega
      have row : (8 + ((y - 8 : ℕ) : ℤ)).toNat = y := by omega
      dsimp only at covered
      rw [column, row] at covered
      exact ⟨_, covered⟩

/-! ### The identity -/

/-- The cells that are not within four cells of the edge. -/
structure InnerCell (x y : ℕ) : Prop where
  left : 4 ≤ x
  right : x < 36
  top : 4 ≤ y
  bottom : y < 28

/-- What a warped mask keeps of the read blocks: in the last inner column and row two cells are
averaged, and both must be set. -/
def warpedBlockBit (mask : MetricMask) (x y : ℕ) : Bool :=
  readBlockBit mask x y &&
    (if x = 35 then y = 27 || readBlockBit mask x (y + 1)
    else y ≠ 27 || readBlockBit mask (x + 1) y)

lemma locate_identity {x y : ℕ} (inner : InnerCell x y) :
    (InverseTransform.shift 0 0).locate x y = (0x400 * (x : ℤ), 0x400 * (y : ℤ)) := by
  obtain ⟨left, right, top, bottom⟩ := inner
  have at' := @locate_shift 0 0 x y (by rw [abs_lt]; omega) (by rw [abs_lt]; omega)
  rwa [Int.add_zero, Int.add_zero] at at'

lemma metricSourceByte_le_one {source : ℕ → ℕ} (bits : ∀ index, source index ≤ 1) (sourceBytes : ℕ)
    (index : ℤ) : metricSourceByte source sourceBytes index ≤ 1 := by
  unfold metricSourceByte
  split
  · exact bits _
  · exact Nat.zero_le 1

/-- A warped plane of bits at an inner cell. -/
lemma warpPixel_identity {source : ℤ → ℕ} (bits : ∀ index, source index ≤ 1) {x y : ℕ}
    (inner : InnerCell x y) :
    warpPixel 4 source (.shift 0 0) x y < 2 ∧
      (warpPixel 4 source (.shift 0 0) x y ≠ 0 ↔ source (y * 40 + x) ≠ 0 ∧
        (x = 35 → y < 27 → source (y * 40 + x + 40) ≠ 0) ∧
        (x < 35 → y = 27 → source (y * 40 + x + 1) ≠ 0)) := by
  have at' := locate_identity inner
  obtain ⟨left, right, top, bottom⟩ := inner
  have here := bits (y * 40 + x)
  have below := bits (y * 40 + x + 40)
  have beside := bits (y * 40 + x + 1)
  rcases Nat.lt_or_ge x 35 with notLast | last
  · rcases Nat.lt_or_ge y 27 with notLastRow | lastRow
    · rw [warpPixel_interior at' (by omega) (by omega) (by omega) (by omega) (by omega)]
      omega
    · rw [warpPixel_bottom at' (by omega) (by omega) (by omega) (by omega)]
      omega
  · rcases Nat.lt_or_ge y 27 with notLastRow | lastRow
    · rw [warpPixel_right at' (by omega) (by omega) (by omega) (by omega)]
      omega
    · rw [warpPixel_corner at' (by omega) (by omega) (by omega)]
      omega

lemma metricPlane_le_one (packed : MetricMap) (index : ℕ) : metricPlane packed index ≤ 1 :=
  Nat.le_of_lt_succ (metricPlane_lt packed index)

lemma expandMetricMask_le_one (mask : MetricMask) (index : ℕ) :
    expandMetricMask mask index ≤ 1 := by
  unfold expandMetricMask
  split <;> decide

lemma expandConfig1Mask_le_one (mask : MetricMask) (index : ℕ) :
    expandConfig1Mask mask index ≤ 1 := by
  unfold expandConfig1Mask
  split <;> decide

lemma expandMetricMask_at (mask : MetricMask) {x y : ℕ} {index : ℤ} (inside : 40 * y + x < 5120)
    (is : index = 40 * y + x) :
    metricSourceByte (expandMetricMask mask) 5120 index ≠ 0 ↔ readBlockBit mask x y = true := by
  have cast : index = ((40 * y + x : ℕ) : ℤ) := by
    rw [is]
    push_cast
    rfl
  rw [cast, metricSourceByte_inside inside]
  exact expandMetricMask_ne_zero mask x y

lemma expandConfig1Mask_at (mask : MetricMask) {x y : ℕ} {index : ℤ} (column : x < 40)
    (row : y < 32) (is : index = 40 * y + x) :
    metricSourceByte (expandConfig1Mask mask) 1280 index ≠ 0 ↔
      sensorBlockBit mask (2 * x) (2 * y) = true := by
  have cast : index = ((40 * y + x : ℕ) : ℤ) := by
    rw [is]
    push_cast
    rfl
  rw [cast, metricSourceByte_inside (by omega)]
  exact expandConfig1Mask_ne_zero mask column

/-- The whole plane, compared with itself in place. -/
lemma metricWindow_identity : metricWindow (moved 0 0) = some ⟨0, 0, 40, 32⟩ := by rfl

lemma mem_coveredCells_identity {comparison : Comparison}
    (whole : comparison.window = ⟨0, 0, 40, 32⟩) {x y : ℕ} (inner : InnerCell x y) :
    (x, y) ∈ comparison.coveredCells ↔ comparison.covers (x, y) = true := by
  have cell : ∀ pixel, comparison.cell pixel = pixel := by
    rintro ⟨column, row⟩
    unfold Comparison.cell
    rw [whole]
    simp
  unfold Comparison.coveredCells Comparison.coveredPixels
  rw [List.mem_map]
  constructor
  · rintro ⟨pixel, covered, is⟩
    rw [cell] at is
    rw [← is]
    exact (List.mem_filter.mp covered).2
  · intro covered
    have inside : (x, y) ∈ windowPixels comparison.window := by
      rw [whole]
      exact mem_windowPixels.mpr ⟨inner.right.trans (by decide : 36 < 40),
        inner.bottom.trans (by decide : 28 < 32)⟩
    exact ⟨(x, y), List.mem_filter.mpr ⟨inside, covered⟩, cell _⟩

lemma inverseTransform_identity :
    inverseTransform (moved 0 0) (((moved 0 0).get 2).toInt - 0 * 0x100)
      (((moved 0 0).get 5).toInt - 0 * 0x100) = some (.shift 0 0) := by
  have third : (moved 0 0).get 2 = 0 := rfl
  have last : (moved 0 0).get 5 = 0 := rfl
  have zero : (0 : Int32).toInt - 0 * 0x100 = -(0x100 * 0) := by decide
  rw [third, last, zero]
  exact inverseTransform_moved 0 0 (by decide) (by decide)

lemma halfTranslated_identity : halfTranslated (moved 0 0) = moved 0 0 := by decide

lemma relationComparison_identity (new old : MetricData) :
    relationComparison new old (moved 0 0) = some
      { window := ⟨0, 0, 40, 32⟩
        oldPlane := metricPlane old.primary
        oldMask := expandMetricMask old.coarseMask
        newPlane := warpPixel 4 (metricSourceByte (metricPlane new.primary) 1280) (.shift 0 0)
        newMask := warpPixel 4 (metricSourceByte (expandMetricMask new.coarseMask) 5120)
          (.shift 0 0) } := by
  unfold relationComparison
  rw [metricWindow_identity]
  dsimp only [Option.map_some]
  rw [inverseTransform_identity]
  rfl

lemma config1Comparison_identity (newPacked oldPacked : MetricMap) (newMask oldMask : MetricMask) :
    config1Comparison newPacked oldPacked newMask oldMask (moved 0 0) = some
      { window := ⟨0, 0, 40, 32⟩
        oldPlane := metricPlane oldPacked
        oldMask := expandConfig1Mask oldMask
        newPlane := warpPixel 0 (metricSourceByte (metricPlane newPacked) 1280) (.shift 0 0)
        newMask := warpPixel 0 (metricSourceByte (expandConfig1Mask newMask) 1280)
          (.shift 0 0) } := by
  unfold config1Comparison
  dsimp only
  rw [halfTranslated_identity, metricWindow_identity]
  dsimp only [Option.bind_some]
  rw [inverseTransform_identity]
  rfl

lemma mem_relationCovers_identity (new : MetricData) {x y : ℕ} (inner : InnerCell x y) :
    (x, y) ∈ relationCovers new (moved 0 0) ↔ warpedBlockBit new.coarseMask x y = true := by
  obtain ⟨plane, -⟩ := warpPixel_identity
    (metricSourceByte_le_one (metricPlane_le_one new.primary) 1280) inner
  obtain ⟨-, mask⟩ := warpPixel_identity
    (metricSourceByte_le_one (expandMetricMask_le_one new.coarseMask) 5120) inner
  have right := inner.right
  have bottom := inner.bottom
  rw [@expandMetricMask_at new.coarseMask x y _ (by omega) (by omega),
    @expandMetricMask_at new.coarseMask x (y + 1) _ (by omega) (by push_cast; omega),
    @expandMetricMask_at new.coarseMask (x + 1) y _ (by omega) (by push_cast; omega)] at mask
  unfold relationCovers
  rw [relationComparison_identity, Option.map_some, Option.getD_some,
    mem_coveredCells_identity rfl inner]
  unfold Comparison.covers
  rw [Bool.and_eq_true, bne_iff_ne, decide_eq_true_eq]
  dsimp only
  rw [and_iff_right plane, mask]
  unfold warpedBlockBit
  rw [Bool.and_eq_true]
  apply and_congr_right
  intro _
  by_cases column : x = 35
  · rw [if_pos column, Bool.or_eq_true, decide_eq_true_eq]
    constructor
    · rintro ⟨below, -⟩
      rcases Nat.lt_or_ge y 27 with early | late
      · exact .inr (below column early)
      · exact .inl (by omega)
    · intro either
      exact ⟨fun _ early => either.resolve_left (by omega), fun early => absurd column (by omega)⟩
  · rw [if_neg column, Bool.or_eq_true, decide_eq_true_eq]
    constructor
    · rintro ⟨-, beside⟩
      rcases Nat.lt_or_ge y 27 with early | late
      · exact .inl (by omega)
      · exact .inr (beside (by omega) (by omega))
    · intro either
      exact ⟨fun last => absurd last column, fun _ last => either.resolve_left (not_not_intro last)⟩

lemma mem_config1Covers_identity (newPacked : MetricMap) (newMask : MetricMask) {x y : ℕ}
    (inner : InnerCell x y) : (x, y) ∈ config1Covers newPacked newMask (moved 0 0) ↔
      sensorBlockBit newMask (2 * x) (2 * y) = true := by
  have at' := locate_identity inner
  have left := inner.left
  have right := inner.right
  have top := inner.top
  have bottom := inner.bottom
  have planeByte := metricSourceByte_le_one (metricPlane_le_one newPacked) 1280 (y * 40 + x)
  have maskByte := metricSourceByte_le_one (expandConfig1Mask_le_one newMask) 1280 (y * 40 + x)
  have plane := @warpPixel_interior 0 (metricSourceByte (metricPlane newPacked) 1280) _ _ _ _ _ at'
    (by omega) (by omega) (by omega) (by omega) (by omega)
  have mask := @warpPixel_interior 0 (metricSourceByte (expandConfig1Mask newMask) 1280) _ _ _ _ _
    at' (by omega) (by omega) (by omega) (by omega) (by omega)
  unfold config1Covers
  rw [config1Comparison_identity, Option.map_some, Option.getD_some,
    mem_coveredCells_identity rfl inner]
  unfold Comparison.covers
  rw [Bool.and_eq_true, bne_iff_ne, decide_eq_true_eq]
  dsimp only
  rw [plane, mask, and_iff_right (by omega)]
  exact expandConfig1Mask_at newMask (by omega) (by omega) (by omega)

/-! ### What the comparisons have in common -/

/-- What both comparisons promise for two prints and a transform: a counted cell of the old print
lies in a block of its coarse mask, and in place the same inner cells are counted. -/
structure ReadsAlike (new old : MetricData) (transform : Transform) : Prop where
  relation : ∀ cell ∈ relationCells new old transform,
    sensorBlockBit old.coarseMask (2 * cell.1) (2 * cell.2) = true
  config1 : ∀ cell ∈ config1Cells new.primary old.primary new.coarseMask old.coarseMask transform,
    sensorBlockBit old.coarseMask (2 * cell.1) (2 * cell.2) = true
  identity : ∀ x y, InnerCell x y → ((x, y) ∈ relationCells new old (moved 0 0) ↔
    (x, y) ∈ config1Cells new.primary old.primary new.coarseMask old.coarseMask (moved 0 0))

/-- The configuration-one counts always read the block that the cell lies in. -/
lemma config1_reads_own_block (newPacked oldPacked : MetricMap) (newMask oldMask : MetricMask)
    (transform : Transform) :
    ∀ cell ∈ config1Cells newPacked oldPacked newMask oldMask transform,
      sensorBlockBit oldMask (2 * cell.1) (2 * cell.2) = true := by
  intro cell counted
  rw [config1Cells_eq] at counted
  exact (List.mem_filter.mp counted).2

lemma relation_reads_own_block_iff (new old : MetricData) (transform : Transform) :
    (∀ cell ∈ relationCells new old transform,
      sensorBlockBit old.coarseMask (2 * cell.1) (2 * cell.2) = true) ↔
    ∀ cell ∈ relationCovers new transform, readBlockBit old.coarseMask cell.1 cell.2 = true →
      sensorBlockBit old.coarseMask (2 * cell.1) (2 * cell.2) = true := by
  rw [relationCells_eq]
  constructor
  · intro counted cell covered read
    exact counted cell (List.mem_filter.mpr ⟨covered, read⟩)
  · intro right cell counted
    obtain ⟨covered, read⟩ := List.mem_filter.mp counted
    exact right cell covered read

lemma identity_alike_iff (new old : MetricData) {x y : ℕ} (inner : InnerCell x y) :
    ((x, y) ∈ relationCells new old (moved 0 0) ↔
      (x, y) ∈ config1Cells new.primary old.primary new.coarseMask old.coarseMask (moved 0 0)) ↔
    (warpedBlockBit new.coarseMask x y = true ∧ readBlockBit old.coarseMask x y = true ↔
      sensorBlockBit new.coarseMask (2 * x) (2 * y) = true ∧
        sensorBlockBit old.coarseMask (2 * x) (2 * y) = true) := by
  rw [relationCells_eq, config1Cells_eq, List.mem_filter, List.mem_filter,
    mem_relationCovers_identity new inner, mem_config1Covers_identity _ _ inner]

/-- The comparisons read the coarse masks alike exactly when no cell that the new print covers has
its read block set and its own block clear, and the blocks that are read in place agree with the
right ones at every inner cell. For an old print the first holds under all new prints and
transforms when its mask is closed under reading, and only then. -/
theorem masks_read_alike_iff (new old : MetricData) (transform : Transform) :
    (ReadsAlike new old transform ↔
      (∀ cell ∈ relationCovers new transform, readBlockBit old.coarseMask cell.1 cell.2 = true →
        sensorBlockBit old.coarseMask (2 * cell.1) (2 * cell.2) = true) ∧
      ∀ x y, InnerCell x y →
        (warpedBlockBit new.coarseMask x y = true ∧ readBlockBit old.coarseMask x y = true ↔
          sensorBlockBit new.coarseMask (2 * x) (2 * y) = true ∧
            sensorBlockBit old.coarseMask (2 * x) (2 * y) = true)) ∧
    ((∀ new transform, ∀ cell ∈ relationCells new old transform,
      sensorBlockBit old.coarseMask (2 * cell.1) (2 * cell.2) = true) ↔
        ClosedUnderReading old.coarseMask) := by
  constructor
  · constructor
    · rintro ⟨relation, -, identity⟩
      exact ⟨(relation_reads_own_block_iff new old transform).mp relation,
        fun x y inner => (identity_alike_iff new old inner).mp (identity x y inner)⟩
    · rintro ⟨covered, inPlace⟩
      exact ⟨(relation_reads_own_block_iff new old transform).mpr covered,
        config1_reads_own_block _ _ _ _ transform,
        fun x y inner => (identity_alike_iff new old inner).mpr (inPlace x y inner)⟩
  · rw [closedUnderReading_iff]
    constructor
    · intro right x hx y hy read
      obtain ⟨transform, covered⟩ := exists_covers hx hy
      exact (relation_reads_own_block_iff fullPrint old transform).mp (right fullPrint transform)
        (x, y) covered read
    · intro closed new transform
      apply (relation_reads_own_block_iff new old transform).mpr
      rintro ⟨x, y⟩ covered read
      obtain ⟨column, row⟩ := relationCovers_inside covered
      exact closed x column y row read

/-- The coarse mask whose only block is the third of the first row. -/
def oneBlock : MetricData :=
  { MetricData.zero with coarseMask := packBits metricMaskPackedBytes fun bit => bit = 2 }

lemma bitAt_oneBlock {bit : ℕ} (inside : bit < 320) :
    bitAt oneBlock.coarseMask bit = decide (bit = 2) := by
  change bitAt (packBits metricMaskPackedBytes fun bit => decide (bit = 2)) bit = decide (bit = 2)
  rw [bitAt_packBits _ inside]

/-- In place, a cell in the third row of blocks is counted for it. -/
theorem other_block_is_counted :
    (8, 4) ∈ relationCells fullPrint oneBlock (moved 0 0) ∧
      sensorBlockBit oneBlock.coarseMask (2 * 8) (2 * 4) = false := by
  constructor
  · rw [relationCells_eq]
    apply List.mem_filter.mpr
    constructor
    · exact @covered_of_moved 0 0 ⟨0, 0, 40, 32⟩ 0 0 metricWindow_identity (by decide) (by decide)
        8 4 (by decide) (by decide) (by decide) (by decide) (by decide)
    · rw [readBlockBit, bitAt_oneBlock (by decide)]
      decide
  · rw [sensorBlockBit, bitAt_oneBlock (by decide)]
    decide

end GoodixSpi.Chicago
