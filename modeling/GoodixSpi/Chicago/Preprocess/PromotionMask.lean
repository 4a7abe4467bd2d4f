import GoodixSpi.Chicago.Preprocess.State
import GoodixSpi.Lib.QueueFill

/-! The promotion mask grows from its seeds over neighbouring pixels whose primary value reaches a
threshold. Pixels of the border are taken but never expanded. -/

namespace GoodixSpi.Chicago

abbrev PixelMask := Vector UInt8 pixels

def maskAt (mask : PixelMask) (pixel : ℕ) : UInt8 := mask.toList.getD pixel 0

/-- Not on the border of the image. -/
def InteriorPixel (pixel : ℕ) : Prop :=
  (1 ≤ pixel % imageWidth ∧ pixel % imageWidth + 1 < imageWidth) ∧
    1 ≤ pixel / imageWidth ∧ pixel / imageWidth + 1 < imageHeight

instance (pixel : ℕ) : Decidable (InteriorPixel pixel) := inferInstanceAs (Decidable (_ ∧ _))

/-- The eight pixels around an interior pixel; a border pixel is passed over. -/
def promotionNeighbors (pixel : ℕ) : List ℕ :=
  if InteriorPixel pixel then
    (List.range 3).flatMap fun (dy : ℕ) => (List.range 3).filterMap fun (dx : ℕ) =>
      if dx = 1 ∧ dy = 1 then none
      else some ((pixel / imageWidth + dy - 1) * imageWidth + (pixel % imageWidth + dx - 1))
  else []

/-- `!((gint16) primary[neighbor] < threshold)`. -/
def promotionAdmits (primary : Plane) (threshold : ℤ) (pixel : ℕ) : Bool :=
  threshold ≤ (pixelAt primary pixel).toInt16.toInt

lemma maskAt_setIfInBounds (mask : PixelMask) (c : ℕ) (value : UInt8) (v : ℕ) :
    maskAt (mask.setIfInBounds c value) v =
      if c = v ∧ c < pixels then value else maskAt mask v :=
  Collect.getD_setIfInBounds mask c value v 0

lemma maskAt_eq (mask : PixelMask) {v : ℕ} (inside : v < pixels) : maskAt mask v = mask[v] := by
  have listed : v < mask.toList.length := by rwa [Vector.length_toList]
  rw [maskAt, List.getD_eq_getElem?_getD, List.getElem?_eq_getElem listed, Option.getD_some,
    Vector.getElem_toList]

/-- A pixel that joins is marked with 2. -/
def promotionMarks : QueueFill.Marks PixelMask (List.range pixels) where
  marked mask pixel := maskAt mask pixel != 0
  mark mask pixel := mask.setIfInBounds pixel 2
  marked_mark mask c inside v := by
    rw [maskAt_setIfInBounds]
    by_cases same : c = v
    · subst same
      simp [List.mem_range.mp inside]
    · simp [same, Ne.symm same]

/-- The queue of a seed, after some rounds of its loop. -/
def seedQueue (primary : Plane) (threshold : ℤ) (rounds : ℕ) (mask : PixelMask) (seed : ℕ) :
    QueueFill.Search PixelMask :=
  QueueFill.search promotionMarks promotionNeighbors (promotionAdmits primary threshold) rounds mask
    seed

/-- One seed of the scan: only a seed of the input holds 1. The loop ends within as many rounds as
there are pixels. -/
def expandSeed (primary : Plane) (threshold : ℤ) (mask : PixelMask) (seed : ℕ) : PixelMask :=
  if maskAt mask seed = 1 then (seedQueue primary threshold pixels mask seed).marks else mask

/-- The order in which the source scans the seeds. -/
def interiorPixels : List ℕ :=
  (List.range' 1 (imageHeight - 2)).flatMap fun y =>
    (List.range' 1 (imageWidth - 2)).map fun x => y * imageWidth + x

/-- The seeds of the input, as ones. -/
def seedMask (mask : PixelMask) : PixelMask := mask.map fun value => if value ≠ 0 then 1 else 0

def expandSeeds (primary : Plane) (threshold : ℤ) (order : List ℕ) (mask : PixelMask) : PixelMask :=
  order.foldl (expandSeed primary threshold) mask

/-- `expand_resolution_promotion_mask`, scanning the seeds in any order. -/
def expandInOrder (order : List ℕ) (primary : Plane) (threshold : ℤ) (mask : PixelMask) :
    PixelMask :=
  (expandSeeds primary threshold order (seedMask mask)).map fun value =>
    if value ≠ 0 then 0xff else 0

def expandResolutionPromotionMask : Plane → ℤ → PixelMask → PixelMask :=
  expandInOrder interiorPixels

/-! ### What the mask means -/

/-- Two different pixels of the image that touch. -/
structure Touching (a c : ℕ) : Prop where
  inside : c < pixels
  other : c ≠ a
  columns : a % imageWidth ≤ c % imageWidth + 1 ∧ c % imageWidth ≤ a % imageWidth + 1
  rows : a / imageWidth ≤ c / imageWidth + 1 ∧ c / imageWidth ≤ a / imageWidth + 1

/-- A step leaves an interior pixel for one that reaches the threshold. -/
def PromotionStep (primary : Plane) (threshold : ℤ) (a c : ℕ) : Prop :=
  InteriorPixel a ∧ Touching a c ∧ threshold ≤ (pixelAt primary c).toInt16.toInt

/-- A seed, or reached from an interior seed. -/
def Promoted (primary : Plane) (threshold : ℤ) (mask : PixelMask) (pixel : ℕ) : Prop :=
  maskAt mask pixel ≠ 0 ∨ ∃ seed, InteriorPixel seed ∧ maskAt mask seed ≠ 0 ∧
    Relation.ReflTransGen (PromotionStep primary threshold) seed pixel

lemma mem_around {a c : ℕ} (interior : InteriorPixel a) :
    (∃ dy < 3, ∃ dx < 3, ¬(dx = 1 ∧ dy = 1) ∧
      (a / imageWidth + dy - 1) * imageWidth + (a % imageWidth + dx - 1) = c) ↔ Touching a c := by
  simp only [InteriorPixel, imageWidth, imageHeight] at interior ⊢
  constructor
  · rintro ⟨dy, tall, dx, wide, other, rfl⟩
    refine ⟨?_, by omega, ?_, ?_⟩ <;> simp only [pixels, imageWidth, imageHeight] <;> omega
  · rintro ⟨inside, other, columns, rows⟩
    simp only [pixels, imageWidth, imageHeight] at inside columns rows
    exact ⟨c / 80 + 1 - a / 80, by omega, c % 80 + 1 - a % 80, by omega, by omega, by omega⟩

lemma mem_promotionNeighbors {a c : ℕ} :
    c ∈ promotionNeighbors a ↔ InteriorPixel a ∧ Touching a c := by
  unfold promotionNeighbors
  split
  · rename_i interior
    rw [and_iff_right interior, ← mem_around interior]
    simp only [List.mem_flatMap, List.mem_filterMap, List.mem_range, Option.ite_none_left_eq_some,
      Option.some.injEq]
  · rename_i border
    simp [border]

lemma promotionNeighbors_within : QueueFill.Within (List.range pixels) promotionNeighbors :=
  fun _ _ mem => List.mem_range.mpr (mem_promotionNeighbors.mp mem).2.inside

lemma mem_interiorPixels {pixel : ℕ} : pixel ∈ interiorPixels ↔ InteriorPixel pixel := by
  simp only [interiorPixels, InteriorPixel, List.mem_flatMap, List.mem_map, List.mem_range'_1,
    imageWidth, imageHeight]
  constructor
  · rintro ⟨y, rows, x, columns, rfl⟩
    omega
  · rintro ⟨columns, rows⟩
    exact ⟨pixel / 80, by omega, pixel % 80, by omega, by omega⟩

lemma InteriorPixel.inside {pixel : ℕ} (interior : InteriorPixel pixel) : pixel < pixels := by
  obtain ⟨columns, rows⟩ := interior
  simp only [pixels, imageWidth, imageHeight] at columns rows ⊢
  omega

/-! ### The scan -/

variable {primary : Plane} {threshold : ℤ}

lemma maskAt_seedMask (mask : PixelMask) (v : ℕ) :
    maskAt (seedMask mask) v = if maskAt mask v ≠ 0 then 1 else 0 := by
  simp only [maskAt, seedMask, Vector.toList_map, List.getD_eq_getElem?_getD, List.getElem?_map]
  cases mask.toList[v]? <;> rfl

/-- The ones are the seeds of the input, whatever has been marked since. -/
def SeedsKept (mask marks : PixelMask) : Prop := ∀ v, maskAt marks v = 1 ↔ maskAt mask v ≠ 0

lemma seedsKept_seedMask (mask : PixelMask) : SeedsKept mask (seedMask mask) := by
  intro v
  rw [maskAt_seedMask]
  split <;> rename_i seed <;> simp [seed]

lemma SeedsKept.search {mask marks : PixelMask} (kept : SeedsKept mask marks) (rounds seed : ℕ) :
    SeedsKept mask (seedQueue primary threshold rounds marks seed).marks := by
  refine QueueFill.run_invariant (P := SeedsKept mask) (fun marks c unmarked kept v => ?_) rounds
    (s := ⟨marks, [seed], 0⟩) kept
  have zero : maskAt marks c = 0 := by simpa [promotionMarks] using unmarked
  have stays : maskAt (promotionMarks.mark marks c) v =
    if c = v ∧ c < pixels then 2 else maskAt marks v := maskAt_setIfInBounds marks c 2 v
  rw [stays, ← kept v]
  split
  · rename_i both
    rw [← both.1, zero]
    decide
  · rfl

lemma expandSeeds_cons (seed : ℕ) (rest : List ℕ) (marks : PixelMask) :
    expandSeeds primary threshold (seed :: rest) marks =
      expandSeeds primary threshold rest (expandSeed primary threshold marks seed) := rfl

/-- A scan searches from the seeds of its order. -/
lemma expandSeeds_eq_fill {mask : PixelMask} (order : List ℕ) {marks : PixelMask}
    (kept : SeedsKept mask marks) :
    expandSeeds primary threshold order marks =
      QueueFill.fill promotionMarks promotionNeighbors (promotionAdmits primary threshold) pixels
        (order.filter fun seed => maskAt mask seed ≠ 0) marks := by
  induction order generalizing marks with
  | nil => rw [expandSeeds, List.foldl_nil, List.filter_nil, QueueFill.fill, List.foldl_nil]
  | cons seed rest ih =>
    rw [expandSeeds_cons, expandSeed]
    by_cases is : maskAt mask seed ≠ 0
    · rw [if_pos ((kept seed).mpr is), List.filter_cons_of_pos (by simpa using is),
        QueueFill.fill_cons, ih (kept.search pixels seed), seedQueue]
    · rw [if_neg fun one => is ((kept seed).mp one), List.filter_cons_of_neg (by simpa using is),
        ih kept]

lemma expandSeeds_kept {mask : PixelMask} (order : List ℕ) {marks : PixelMask}
    (kept : SeedsKept mask marks) :
    SeedsKept mask (expandSeeds primary threshold order marks) := by
  induction order generalizing marks with
  | nil => exact kept
  | cons seed rest ih =>
    rw [expandSeeds_cons, expandSeed]
    split
    · exact ih (kept.search pixels seed)
    · exact ih kept

/-- Steps of the search are steps of the specification. -/
lemma reached_iff (mask : PixelMask) (v : ℕ) :
    QueueFill.Reached promotionNeighbors (promotionAdmits primary threshold)
      (fun seed => maskAt mask seed ≠ 0) v ↔ Promoted primary threshold mask v := by
  have edge (a c : ℕ) : QueueFill.Edge promotionNeighbors (promotionAdmits primary threshold) a c ↔
      PromotionStep primary threshold a c := by
    rw [QueueFill.Edge, mem_promotionNeighbors, promotionAdmits, decide_eq_true_eq, and_assoc]
    rfl
  have same : QueueFill.Edge promotionNeighbors (promotionAdmits primary threshold) =
      PromotionStep primary threshold := funext fun a => funext fun c => propext (edge a c)
  rw [QueueFill.Reached, Promoted, same]
  constructor
  · rintro ⟨seed, is, path⟩
    rcases Relation.ReflTransGen.cases_head path with rfl | ⟨c, first, -⟩
    · exact Or.inl is
    · exact Or.inr ⟨seed, first.1, is, path⟩
  · rintro (is | ⟨seed, -, is, path⟩)
    · exact ⟨v, is, .refl⟩
    · exact ⟨seed, is, path⟩

/-! ### The whole mask -/

lemma maskAt_expandInOrder (order : List ℕ) (primary : Plane) (threshold : ℤ) (mask : PixelMask)
    (v : ℕ) : maskAt (expandInOrder order primary threshold mask) v =
      if maskAt (expandSeeds primary threshold order (seedMask mask)) v ≠ 0 then 0xff else 0 := by
  simp only [maskAt, expandInOrder, Vector.toList_map, List.getD_eq_getElem?_getD,
    List.getElem?_map]
  cases (expandSeeds primary threshold order (seedMask mask)).toList[v]? <;> rfl

lemma promotionMarks_marked (marks : PixelMask) (v : ℕ) :
    promotionMarks.marked marks v = true ↔ maskAt marks v ≠ 0 := by simp [promotionMarks]

/-- A scan of the interior pixels in any order marks exactly the promoted ones. -/
lemma expandSeeds_iff (mask : PixelMask) {order : List ℕ} (scan : order.Perm interiorPixels)
    (v : ℕ) : maskAt (expandSeeds primary threshold order (seedMask mask)) v ≠ 0 ↔
      Promoted primary threshold mask v := by
  have fills := @QueueFill.fill_marked_iff _ _ promotionMarks promotionNeighbors
    (promotionAdmits primary threshold) List.nodup_range promotionNeighbors_within
    (fun seed => maskAt mask seed ≠ 0) (order.filter fun seed => maskAt mask seed ≠ 0)
    (seedMask mask)
  rw [List.length_range] at fills
  rw [expandSeeds_eq_fill order (seedsKept_seedMask mask), ← promotionMarks_marked, ← reached_iff]
  refine fills (fun v => ?_) (fun v mem => ?_) (fun v is passed => ?_) v
  · rw [promotionMarks_marked, maskAt_seedMask]
    simp
  · obtain ⟨scanned, is⟩ := List.mem_filter.mp mem
    exact ⟨List.mem_range.mpr (mem_interiorPixels.mp (scan.mem_iff.mp scanned)).inside,
      by simpa using is⟩
  · rw [List.eq_nil_iff_forall_not_mem]
    intro c near
    have interior := (mem_promotionNeighbors.mp near).1
    refine passed (List.mem_filter.mpr ⟨scan.mem_iff.mpr (mem_interiorPixels.mpr interior), ?_⟩)
    simpa using is

lemma expandInOrder_iff (primary : Plane) (threshold : ℤ) (mask : PixelMask) {order : List ℕ}
    (scan : order.Perm interiorPixels) (v : ℕ) :
    maskAt (expandInOrder order primary threshold mask) v = 0xff ↔
      Promoted primary threshold mask v := by
  rw [maskAt_expandInOrder, ← expandSeeds_iff mask scan]
  split <;> rename_i marked <;> simp [marked]

lemma expandInOrder_values (order : List ℕ) (primary : Plane) (threshold : ℤ) (mask : PixelMask)
    (v : ℕ) : maskAt (expandInOrder order primary threshold mask) v = 0xff ∨
      maskAt (expandInOrder order primary threshold mask) v = 0 := by
  rw [maskAt_expandInOrder]
  split
  · exact Or.inl rfl
  · exact Or.inr rfl

/-- The order of the scan makes no difference. -/
lemma expandInOrder_perm (primary : Plane) (threshold : ℤ) (mask : PixelMask) {order : List ℕ}
    (scan : order.Perm interiorPixels) :
    expandInOrder order primary threshold mask =
      expandResolutionPromotionMask primary threshold mask := by
  refine Vector.ext fun v inside => ?_
  have both : maskAt (expandInOrder order primary threshold mask) v = 0xff ↔
      maskAt (expandInOrder interiorPixels primary threshold mask) v = 0xff :=
    (expandInOrder_iff primary threshold mask scan v).trans
      (expandInOrder_iff primary threshold mask (List.Perm.refl _) v).symm
  rw [← maskAt_eq _ inside, ← maskAt_eq _ inside, expandResolutionPromotionMask]
  rcases expandInOrder_values interiorPixels primary threshold mask v with full | empty
  · rw [full, both.mpr full]
  · rcases expandInOrder_values order primary threshold mask v with other | same
    · rw [both.mp other] at empty
      cases empty
    · rw [same, empty]

/-- The queue of a seed ends within its rounds, and never holds more than all pixels. -/
lemma seedQueue_bounded {mask marks : PixelMask} (kept : SeedsKept mask marks) {seed : ℕ}
    (interior : InteriorPixel seed) (is : maskAt mask seed ≠ 0) :
    (∀ rounds, (seedQueue primary threshold rounds marks seed).queue.length ≤ pixels) ∧
      (seedQueue primary threshold pixels marks seed).queue.drop
        (seedQueue primary threshold pixels marks seed).head = [] := by
  have inside := List.mem_range.mpr interior.inside
  have one := (kept seed).mpr is
  have marked : promotionMarks.marked marks seed = true := by
    rw [promotionMarks_marked, one]
    decide
  constructor
  · intro rounds
    have bound : (seedQueue primary threshold rounds marks seed).queue.length ≤
        (List.range pixels).length :=
      QueueFill.search_queue_le List.nodup_range promotionNeighbors_within rounds inside marked
    rwa [List.length_range] at bound
  · have ends : (seedQueue primary threshold (List.range pixels).length marks seed).queue.drop
        (seedQueue primary threshold (List.range pixels).length marks seed).head = [] :=
      QueueFill.search_ends List.nodup_range promotionNeighbors_within inside marked
    rwa [List.length_range] at ends

/-- The fill is exact: it marks the seeds and what interior seeds reach, in any order of the scan,
and no queue outgrows the image. -/
theorem expand_promotion_mask_exact (primary : Plane) (threshold : ℤ) (mask : PixelMask) :
    (∀ v, (maskAt (expandResolutionPromotionMask primary threshold mask) v = 0xff ∨
        maskAt (expandResolutionPromotionMask primary threshold mask) v = 0) ∧
      (maskAt (expandResolutionPromotionMask primary threshold mask) v = 0xff ↔
        Promoted primary threshold mask v)) ∧
    ∀ order : List ℕ, order.Perm interiorPixels →
      expandInOrder order primary threshold mask =
        expandResolutionPromotionMask primary threshold mask ∧
      ∀ before seed after, order = before ++ seed :: after → maskAt mask seed ≠ 0 →
        (∀ rounds, (seedQueue primary threshold rounds
          (expandSeeds primary threshold before (seedMask mask)) seed).queue.length ≤ pixels) ∧
        (seedQueue primary threshold pixels
          (expandSeeds primary threshold before (seedMask mask)) seed).queue.drop
            (seedQueue primary threshold pixels
              (expandSeeds primary threshold before (seedMask mask)) seed).head = [] := by
  refine ⟨fun v => ⟨expandInOrder_values interiorPixels primary threshold mask v,
    expandInOrder_iff primary threshold mask (List.Perm.refl _) v⟩, fun order scan =>
    ⟨expandInOrder_perm primary threshold mask scan, fun before seed after split is => ?_⟩⟩
  have scanned : seed ∈ order := split ▸ List.mem_append_right before List.mem_cons_self
  exact seedQueue_bounded (expandSeeds_kept before (seedsKept_seedMask mask))
    (mem_interiorPixels.mp (scan.mem_iff.mp scanned)) is

/-- Only the first pixel is a seed. -/
def cornerSeed : PixelMask := (Vector.replicate pixels 0).setIfInBounds 0 1

lemma maskAt_cornerSeed (v : ℕ) : maskAt cornerSeed v ≠ 0 ↔ v = 0 := by
  rw [cornerSeed, maskAt_setIfInBounds]
  by_cases first : v = 0
  · simp [first]
  · have nothing : maskAt (Vector.replicate pixels 0) v = 0 := by
      rw [maskAt, Vector.toList_replicate, List.getD_eq_getElem?_getD, List.getElem?_replicate]
      split <;> rfl
    simp [first, nothing, Ne.symm first]

/-- A seed of the border stays marked although no interior seed reaches it. -/
theorem border_seed_stays :
    ¬∀ (primary : Plane) (threshold : ℤ) (mask : PixelMask), ∀ v,
      maskAt (expandResolutionPromotionMask primary threshold mask) v ≠ 0 ↔
        ∃ seed, InteriorPixel seed ∧ maskAt mask seed ≠ 0 ∧
          Relation.ReflTransGen (PromotionStep primary threshold) seed v := by
  intro claim
  have marked : maskAt (expandInOrder interiorPixels (Vector.replicate pixels 0) 1 cornerSeed) 0 =
      0xff := (expandInOrder_iff _ _ _ (List.Perm.refl _) 0).mpr
        (Or.inl ((maskAt_cornerSeed 0).mpr rfl))
  obtain ⟨seed, interior, is, -⟩ := (claim (Vector.replicate pixels 0) 1 cornerSeed 0).mp (by
    rw [expandResolutionPromotionMask, marked]
    decide)
  rw [(maskAt_cornerSeed seed).mp is] at interior
  exact absurd interior (by decide)

end GoodixSpi.Chicago
