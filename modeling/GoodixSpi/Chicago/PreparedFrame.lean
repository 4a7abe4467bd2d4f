import GoodixSpi.Lib.Collect
import GoodixSpi.Chicago.Calibration

/-! The preparation of a frame in the preprocessor and in the calibration: each prepared pixel is
one clamped pixel of the frame, in the edge rows that of the row beside it. -/

namespace GoodixSpi.Chicago

abbrev chicagoStageWidth : ℕ := 80
abbrev chicagoStageHeight : ℕ := 64

/-- `goodix_chicago_preprocessor_prepare_raw`; the preprocessor's state takes no part in it. -/
def prepareRaw (raw : Plane) : Plane :=
  let clamped : Plane := Vector.ofFn fun pixel => min (raw.get pixel) 0x0fff
  (List.range' 1 (chicagoStageWidth - 2)).foldl (fun prepared column =>
      let top := prepared.setIfInBounds column (pixelAt prepared (chicagoStageWidth + column))
      top.setIfInBounds ((chicagoStageHeight - 1) * chicagoStageWidth + column)
        (pixelAt top ((chicagoStageHeight - 2) * chicagoStageWidth + column)))
    clamped

/-- One column of the repair. -/
def repairColumn (prepared : Plane) (column : ℕ) : Plane :=
  let first := prepared.setIfInBounds column (pixelAt prepared (imageWidth + column))
  first.setIfInBounds ((imageHeight - 1) * imageWidth + column)
    (pixelAt first ((imageHeight - 2) * imageWidth + column))

/-- The pixel that a prepared pixel is taken from, once the columns up to one are repaired. -/
def repairSource (columns pixel : ℕ) : ℕ :=
  if 1 ≤ pixel % imageWidth ∧ pixel % imageWidth ≤ columns then
    if pixel / imageWidth = 0 then pixel + imageWidth
    else if pixel / imageWidth = imageHeight - 1 then pixel - imageWidth
    else pixel
  else pixel

lemma repairSource_inside (columns : ℕ) {pixel : ℕ} (inside : pixel < pixels) :
    repairSource columns pixel < pixels := by
  simp only [repairSource, pixels, imageWidth, imageHeight] at inside ⊢
  split
  · split
    · omega
    · split <;> omega
  · exact inside

/-- The rows beside the edges are not repaired themselves. -/
lemma repairSource_repairSource (columns : ℕ) {pixel : ℕ} (inside : pixel < pixels) :
    repairSource columns (repairSource columns pixel) = repairSource columns pixel := by
  simp only [repairSource, pixels, imageWidth, imageHeight] at inside ⊢
  split_ifs <;> omega

lemma pixelAt_setIfInBounds (plane : Plane) (place : ℕ) (value : UInt16) (index : ℕ) :
    pixelAt (plane.setIfInBounds place value) index =
      if place = index ∧ place < pixels then value else pixelAt plane index :=
  Collect.getD_setIfInBounds plane place value index 0

lemma pixelAt_repairColumn (prepared : Plane) {column : ℕ} (inside : column < imageWidth)
    (pixel : ℕ) : pixelAt (repairColumn prepared column) pixel =
      if (imageHeight - 1) * imageWidth + column = pixel then
        pixelAt prepared ((imageHeight - 2) * imageWidth + column)
      else if column = pixel then pixelAt prepared (imageWidth + column)
      else pixelAt prepared pixel := by
  simp only [repairColumn, pixelAt_setIfInBounds, pixels, imageWidth, imageHeight] at inside ⊢
  split_ifs <;> first | rfl | omega

lemma pixelAt_repairColumns (clamped : Plane) {columns : ℕ} (few : columns ≤ imageWidth - 2)
    {pixel : ℕ} (inside : pixel < pixels) :
    pixelAt ((List.range' 1 columns).foldl repairColumn clamped) pixel =
      pixelAt clamped (repairSource columns pixel) := by
  induction columns generalizing pixel with
  | zero =>
    rw [repairSource, if_neg (by omega)]
    rfl
  | succ columns ih =>
    have before {index : ℕ} (inside : index < pixels) :
        pixelAt ((List.range' 1 columns).foldl repairColumn clamped) index =
          pixelAt clamped (repairSource columns index) := ih (by omega) inside
    rw [List.range'_concat, List.foldl_append, List.foldl_cons, List.foldl_nil, Nat.one_mul,
      pixelAt_repairColumn _ (by simp only [imageWidth] at few ⊢; omega)]
    simp only [imageWidth] at few
    split
    · rename_i last
      rw [before (by simp only [pixels, imageWidth, imageHeight]; omega), ← last]
      congr 1
      simp only [repairSource, imageWidth, imageHeight]
      split_ifs <;> omega
    split
    · rename_i first
      rw [before (by simp only [pixels, imageWidth, imageHeight]; omega), ← first]
      congr 1
      simp only [repairSource, imageWidth, imageHeight]
      split_ifs <;> omega
    · rename_i last first
      rw [before inside]
      congr 1
      simp only [repairSource, pixels, imageWidth, imageHeight] at inside last first ⊢
      split_ifs <;> omega

lemma pixelAt_map (raw : Plane) (f : UInt16 → UInt16) {pixel : ℕ} (inside : pixel < pixels) :
    pixelAt (raw.map f) pixel = f (pixelAt raw pixel) := by
  rw [pixelAt_eq _ inside, pixelAt_eq _ inside, Vector.getElem_map]

/-- A prepared pixel, by itself. -/
lemma pixelAt_prepareFrame (raw : Plane) {pixel : ℕ} (inside : pixel < pixels) :
    pixelAt (prepareFrame raw) pixel =
      min (pixelAt raw (repairSource (imageWidth - 2) pixel)) 0x0fff := by
  rw [show prepareFrame raw = (List.range' 1 (imageWidth - 2)).foldl repairColumn
      (raw.map fun value => min value 0x0fff) from rfl,
    pixelAt_repairColumns _ le_rfl inside, pixelAt_map _ _ (repairSource_inside _ inside)]

lemma plane_ext {first second : Plane}
    (same : ∀ pixel < pixels, pixelAt first pixel = pixelAt second pixel) : first = second := by
  refine Vector.ext fun pixel inside => ?_
  rw [← pixelAt_eq first inside, ← pixelAt_eq second inside, same pixel inside]

lemma clamp_clamp (value : UInt16) : min (min value 0x0fff) 0x0fff = min value 0x0fff := by
  by_cases small : value ≤ 0x0fff
  · rw [show min value 0x0fff = value from if_pos small, show min value 0x0fff = value from
      if_pos small]
  · rw [show min value 0x0fff = 0x0fff from if_neg small]
    rfl

/-- Preparing a prepared frame changes nothing. -/
theorem prepareFrame_idempotent (raw : Plane) :
    prepareFrame (prepareFrame raw) = prepareFrame raw := by
  refine plane_ext fun pixel inside => ?_
  rw [pixelAt_prepareFrame _ inside, pixelAt_prepareFrame _ (repairSource_inside _ inside),
    repairSource_repairSource _ inside, pixelAt_prepareFrame _ inside, clamp_clamp]

/-- The preprocessor and the calibration prepare a frame in the same way. -/
theorem prepareRaw_eq_prepareFrame (raw : Plane) : prepareRaw raw = prepareFrame raw := by
  refine plane_ext fun pixel inside => ?_
  have source := repairSource_inside (imageWidth - 2) inside
  rw [pixelAt_prepareFrame _ inside, show prepareRaw raw =
      (List.range' 1 (imageWidth - 2)).foldl repairColumn
        (Vector.ofFn fun pixel => min (raw.get pixel) 0x0fff) from rfl,
    pixelAt_repairColumns _ le_rfl inside, pixelAt_eq _ source, Vector.getElem_ofFn,
    pixelAt_eq _ source]
  rfl

end GoodixSpi.Chicago
