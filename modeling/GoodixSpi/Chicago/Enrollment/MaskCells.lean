import GoodixSpi.Chicago.Enrollment.Metrics
import Mathlib.Data.List.GetD

/-! Which cells of the old print the two comparisons count, and which block of the coarse mask each
of them reads for a cell. A block covers 4 x 4 pixels of the sensor, which are 2 x 2 cells. -/

namespace GoodixSpi.Chicago

open CArithmetic

/-! ### The bits of the coarse mask -/

/-- The bit of the block that contains a pixel of the sensor. -/
def sensorBlockBit (mask : MetricMask) (x y : ℕ) : Bool := bitAt mask (y / 4 * 20 + x / 4)

/-- How many pixels of a block the feature mask has. -/
def populated (mask : ℕ → ℕ → ℕ) (blockX blockY : ℕ) : ℕ :=
  ((List.range 4).map fun (y : ℕ) => ((List.range 4).map fun (x : ℕ) =>
    mask (blockX * 4 + x) (blockY * 4 + y)).sum).sum

/-- The coarse mask of `goodix_chicago_enrollment_build_metric_data`. -/
def buildCoarseMask (mask : ℕ → ℕ → ℕ) : MetricMask :=
  packBits metricMaskPackedBytes fun bit => populated mask (bit % 20) (bit / 20) ≥ 8

/-- The bit that `old_expanded_mask[old_index]` is a copy of: the expanded mask has 80 columns, and
the index counts cells in rows of 40. -/
def readBlockBit (mask : MetricMask) (x y : ℕ) : Bool :=
  bitAt mask ((40 * y + x) / 80 / 4 * 20 + (40 * y + x) % 80 / 4)

/-! ### The cells of a comparison -/

/-- What a comparison counts over. -/
structure Comparison where
  window : Window
  oldPlane : ℕ → ℕ
  oldMask : ℕ → ℕ
  newPlane : ℕ → ℕ → ℕ
  newMask : ℕ → ℕ → ℕ

namespace Comparison

variable (self : Comparison)

def counts : Confusion :=
  countWindow self.window self.oldPlane self.oldMask self.newPlane self.newMask

def oldIndex (pixel : ℕ × ℕ) : ℕ :=
  ((self.window.minimumY + pixel.2) * 40 + self.window.minimumX + pixel.1).toNat

/-- The new print covers the pixel. -/
def covers (pixel : ℕ × ℕ) : Bool :=
  self.newPlane pixel.1 pixel.2 < 2 && self.newMask pixel.1 pixel.2 != 0

/-- The old print has the pixel. -/
def has (pixel : ℕ × ℕ) : Bool :=
  self.oldPlane (self.oldIndex pixel) < 2 && self.oldMask (self.oldIndex pixel) != 0

/-- The cell of the old print at a pixel of the window. -/
def cell (pixel : ℕ × ℕ) : ℕ × ℕ :=
  ((self.window.minimumX + pixel.1).toNat, (self.window.minimumY + pixel.2).toNat)

def coveredPixels : List (ℕ × ℕ) := (windowPixels self.window).filter self.covers

def countedPixels : List (ℕ × ℕ) := self.coveredPixels.filter self.has

def cells : List (ℕ × ℕ) := self.countedPixels.map self.cell

/-- The counts are a tally of the counted pixels. -/
lemma counts_eq : self.counts = self.countedPixels.foldl (fun counts pixel =>
    counts.add (self.oldPlane (self.oldIndex pixel)) (self.newPlane pixel.1 pixel.2)) .none := by
  unfold counts countWindow countedPixels coveredPixels
  rw [List.filter_filter, List.foldl_filter]
  congr 1
  funext counts pixel
  unfold countPixel has covers oldIndex
  simp only [Bool.and_eq_true, decide_eq_true_eq, bne_iff_ne]
  congr 1
  rw [eq_iff_iff]
  constructor
  · rintro ⟨old, new, oldMask, newMask⟩
    exact ⟨⟨old, oldMask⟩, new, newMask⟩
  · rintro ⟨⟨old, oldMask⟩, new, newMask⟩
    exact ⟨old, new, oldMask, newMask⟩

lemma total_add (counts : Confusion) (oldValue newValue : ℕ) :
    (counts.add oldValue newValue).total = counts.total + 1 := by
  unfold Confusion.add Confusion.total
  split <;> dsimp only <;> omega

/-- As many cells are counted as the counts have in total. -/
lemma total_counts : self.counts.total = self.cells.length := by
  have tally : ∀ (pixels : List (ℕ × ℕ)) (start : Confusion), (pixels.foldl (fun counts pixel =>
      counts.add (self.oldPlane (self.oldIndex pixel)) (self.newPlane pixel.1 pixel.2))
        start).total = start.total + pixels.length := by
    intro pixels
    induction pixels with
    | nil => exact fun _ => rfl
    | cons pixel rest ih =>
      intro start
      rw [List.foldl_cons, ih, total_add, List.length_cons]
      omega
  rw [counts_eq, tally, cells, List.length_map]
  exact Nat.zero_add _

end Comparison

/-- What `goodix_chicago_enrollment_calculate_relation_metrics` counts over. -/
def relationComparison (new old : MetricData) (transform : Transform) : Option Comparison :=
  (metricWindow transform).map fun window =>
    let inverse := (inverseTransform transform ((transform.get 2).toInt - window.minimumX * 0x100)
      ((transform.get 5).toInt - window.minimumY * 0x100)).getD .default
    { window
      oldPlane := metricPlane old.primary
      oldMask := expandMetricMask old.coarseMask
      newPlane := warpPixel 4 (metricSourceByte (metricPlane new.primary) 1280) inverse
      newMask := warpPixel 4 (metricSourceByte (expandMetricMask new.coarseMask) 5120) inverse }

/-- What `calculate_config1_counts` counts over. -/
def config1Comparison (newPacked oldPacked : MetricMap) (newMask oldMask : MetricMask)
    (transform : Transform) : Option Comparison :=
  let adjusted := halfTranslated transform
  (metricWindow adjusted).bind fun window =>
    (inverseTransform adjusted ((adjusted.get 2).toInt - window.minimumX * 0x100)
      ((adjusted.get 5).toInt - window.minimumY * 0x100)).map fun inverse =>
      { window
        oldPlane := metricPlane oldPacked
        oldMask := expandConfig1Mask oldMask
        newPlane := warpPixel 0 (metricSourceByte (metricPlane newPacked) 1280) inverse
        newMask := warpPixel 0 (metricSourceByte (expandConfig1Mask newMask) 1280) inverse }

/-- The cells that the relation metrics count. -/
def relationCells (new old : MetricData) (transform : Transform) : List (ℕ × ℕ) :=
  ((relationComparison new old transform).map Comparison.cells).getD []

/-- The cells that the configuration-one counts are made of. -/
def config1Cells (newPacked oldPacked : MetricMap) (newMask oldMask : MetricMask)
    (transform : Transform) : List (ℕ × ℕ) :=
  ((config1Comparison newPacked oldPacked newMask oldMask transform).map Comparison.cells).getD []

lemma calculateRelationMetrics_eq (new old : MetricData) (transform : Transform) :
    calculateRelationMetrics new old transform =
      ((relationComparison new old transform).map fun comparison =>
        (primaryMetric comparison.counts, coverageMetric comparison.counts)).getD (0, 0) := by
  unfold calculateRelationMetrics relationComparison
  cases metricWindow transform <;> rfl

lemma calculateConfig1Counts_eq (newPacked oldPacked : MetricMap) (newMask oldMask : MetricMask)
    (transform : Transform) : calculateConfig1Counts newPacked oldPacked newMask oldMask transform =
      (config1Comparison newPacked oldPacked newMask oldMask transform).map Comparison.counts := by
  unfold calculateConfig1Counts config1Comparison
  dsimp only
  cases metricWindow (halfTranslated transform) with
  | none => rfl
  | some window =>
    dsimp only [Option.bind_some]
    cases inverseTransform (halfTranslated transform) _ _ <;> rfl

/-- The coverage that the relation metrics report is the number of their cells. -/
lemma relation_coverage (new old : MetricData) (transform : Transform) :
    (calculateRelationMetrics new old transform).2 =
      (((relationCells new old transform).length * 0x100 + 640) / 1280 : ℕ) := by
  rw [calculateRelationMetrics_eq]
  unfold relationCells
  cases relationComparison new old transform with
  | none => rfl
  | some comparison =>
    dsimp only [Option.map_some, Option.getD_some]
    rw [coverageMetric, Comparison.total_counts]
    rfl

/-- So is the total of the configuration-one counts. -/
lemma config1_total {newPacked oldPacked : MetricMap} {newMask oldMask : MetricMask}
    {transform : Transform} {counts : Confusion}
    (is : calculateConfig1Counts newPacked oldPacked newMask oldMask transform = some counts) :
    counts.total = (config1Cells newPacked oldPacked newMask oldMask transform).length := by
  rw [calculateConfig1Counts_eq] at is
  obtain ⟨comparison, compared, rfl⟩ := Option.map_eq_some_iff.mp is
  unfold config1Cells
  rw [compared]
  exact comparison.total_counts

/-! ### What is read for a cell -/

lemma testBit_packByte (bits : ℕ → Bool) {k : ℕ} (inside : k < 8) :
    (packByte bits).toNat.testBit k = bits k := by
  have table : ∀ b₀ b₁ b₂ b₃ b₄ b₅ b₆ b₇ : Bool, ∀ k < 8,
      (packByte fun n => [b₀, b₁, b₂, b₃, b₄, b₅, b₆, b₇].getD n false).toNat.testBit k =
        [b₀, b₁, b₂, b₃, b₄, b₅, b₆, b₇].getD k false := by
    decide +kernel
  have same : ∀ n < 8, [bits 0, bits 1, bits 2, bits 3, bits 4, bits 5, bits 6, bits 7].getD n
      false = bits n := by
    intro n small
    match n, small with
    | 0, _ | 1, _ | 2, _ | 3, _ | 4, _ | 5, _ | 6, _ | 7, _ => rfl
  have packed := table (bits 0) (bits 1) (bits 2) (bits 3) (bits 4) (bits 5) (bits 6) (bits 7) k
    inside
  rw [same k inside] at packed
  exact packed

lemma bitAt_packBits {length bit : ℕ} (bits : ℕ → Bool) (inside : bit < 8 * length) :
    bitAt (packBits length bits) bit = bits bit := by
  have listed : bit / 8 < (packBits length bits).toList.length := by
    rw [Vector.length_toList]
    omega
  unfold bitAt
  rw [List.getD_eq_getElem _ _ listed, Vector.getElem_toList]
  unfold packBits
  rw [Vector.getElem_ofFn, testBit_packByte _ (Nat.mod_lt bit (by decide)), Nat.div_add_mod]

/-- The bit of a block says whether half of its pixels are in the feature mask. -/
lemma sensorBlockBit_buildCoarseMask (mask : ℕ → ℕ → ℕ) {x y : ℕ} (insideX : x < 80)
    (insideY : y < 64) :
    sensorBlockBit (buildCoarseMask mask) x y = decide (populated mask (x / 4) (y / 4) ≥ 8) := by
  have column : (y / 4 * 20 + x / 4) % 20 = x / 4 := by omega
  have row : (y / 4 * 20 + x / 4) / 20 = y / 4 := by omega
  have inside : y / 4 * 20 + x / 4 < 8 * metricMaskPackedBytes := by
    change y / 4 * 20 + x / 4 < 8 * 40
    omega
  rw [sensorBlockBit, buildCoarseMask, bitAt_packBits _ inside, column, row]

lemma expandMetricMask_ne_zero (mask : MetricMask) (x y : ℕ) :
    expandMetricMask mask (40 * y + x) ≠ 0 ↔ readBlockBit mask x y = true := by
  unfold expandMetricMask readBlockBit
  split <;> simp_all

/-- Read with its own 80 columns, the expanded mask has the bit of the block. -/
lemma expandMetricMask_sensor (mask : MetricMask) {x y : ℕ} (inside : x < 80) :
    expandMetricMask mask (80 * y + x) ≠ 0 ↔ sensorBlockBit mask x y = true := by
  have row : (80 * y + x) / 80 = y := by omega
  have column : (80 * y + x) % 80 = x := by omega
  unfold expandMetricMask sensorBlockBit
  rw [row, column]
  split <;> simp_all

lemma expandConfig1Mask_ne_zero (mask : MetricMask) {x y : ℕ} (inside : x < 40) :
    expandConfig1Mask mask (40 * y + x) ≠ 0 ↔ sensorBlockBit mask (2 * x) (2 * y) = true := by
  have row : (40 * y + x) / 40 / 2 = 2 * y / 4 := by omega
  have column : (40 * y + x) % 40 / 2 = 2 * x / 4 := by omega
  unfold expandConfig1Mask sensorBlockBit
  rw [row, column]
  split <;> simp_all

lemma metricPlane_lt (packed : MetricMap) (index : ℕ) : metricPlane packed index < 2 := by
  unfold metricPlane
  split <;> decide

/-- A window lies in the plane. -/
structure Window.Inside (window : Window) : Prop where
  left : 0 ≤ window.minimumX
  right : window.minimumX + window.width ≤ 40
  top : 0 ≤ window.minimumY
  bottom : window.minimumY + window.height ≤ 32

lemma span_le {low high bound : ℤ} (ordered : low ≤ high) (inside : high ≤ bound) :
    low + (high - low + 1).toNat ≤ bound + 1 := by
  omega

lemma metricWindow_inside {transform : Transform} {window : Window}
    (is : metricWindow transform = some window) : window.Inside := by
  unfold metricWindow at is
  dsimp only at is
  split at is
  · cases is
  · rename_i overlap
    rw [not_or, not_lt, not_lt] at overlap
    cases is
    exact
      { left := le_max_right _ _
        right := span_le overlap.1 (min_le_right _ _)
        top := le_max_right _ _
        bottom := span_le overlap.2 (min_le_right _ _) }

lemma mem_windowPixels {window : Window} {pixel : ℕ × ℕ} :
    pixel ∈ windowPixels window ↔ pixel.1 < window.width ∧ pixel.2 < window.height := by
  obtain ⟨x, y⟩ := pixel
  simp only [windowPixels, List.mem_flatMap, List.mem_range, List.mem_map, Prod.mk.injEq]
  constructor
  · rintro ⟨_, hy, _, hx, rfl, rfl⟩
    exact ⟨hx, hy⟩
  · rintro ⟨hx, hy⟩
    exact ⟨y, hy, x, hx, rfl, rfl⟩

/-- The index of a pixel is that of its cell. -/
lemma Comparison.oldIndex_eq {comparison : Comparison} (inside : comparison.window.Inside)
    {pixel : ℕ × ℕ} (mem : pixel ∈ windowPixels comparison.window) :
    comparison.oldIndex pixel = 40 * (comparison.cell pixel).2 + (comparison.cell pixel).1 ∧
      (comparison.cell pixel).1 < 40 ∧ (comparison.cell pixel).2 < 32 := by
  obtain ⟨column, row⟩ := mem_windowPixels.mp mem
  obtain ⟨left, right, top, bottom⟩ := inside
  unfold Comparison.oldIndex Comparison.cell
  dsimp only
  omega

end GoodixSpi.Chicago
