import GoodixSpi.Chicago.Preprocess.ResolutionGradient
import GoodixSpi.Lib.Collect
import GoodixSpi.Lib.Trail

/-! The primary resolution plane: from each triggered pixel a walk of a few steps along the steepest
neighbours, which adds up the gradients that it passes. -/

namespace GoodixSpi.Chicago

/-- The same neighbours as index offsets, in the same order. -/
def walkOffsets : List ℤ :=
  [-1, 1, -imageWidth, imageWidth, -1 - imageWidth, imageWidth - 1, 1 - imageWidth, imageWidth + 1]

/-- A read at a signed index; outside the image it fails. -/
def readAt {α : Type} (plane : Vector α pixels) (index : ℤ) : Option α :=
  if index < 0 then none else plane.toList[index.toNat]?

structure RidgeWalk where
  current : ℤ
  primary : UInt16

/-- The inner loop of the walk. -/
def ridgeWalk (gradient : Plane) (directions : PixelMask) : ℕ → RidgeWalk → Option RidgeWalk
  | 0, walk => some walk
  | steps + 1, walk => do
    let direction ← readAt directions walk.current
    if direction = noDirection then some walk
    else do
      let passed ← readAt gradient walk.current
      let offset ← walkOffsets[direction.toNat]?
      ridgeWalk gradient directions steps ⟨walk.current + offset, walk.primary + passed⟩

abbrev walkLimit : ℕ := 6

/-- The planes that the walks follow. -/
def walkedGradient (gradients : ResolutionGradients) (exceptional : Bool) : Plane :=
  if exceptional then gradients.falling else gradients.rising

def walkedDirections (gradients : ResolutionGradients) (exceptional : Bool) : PixelMask :=
  if exceptional then gradients.fallingDirections else gradients.risingDirections

def secondaryTrigger (secondary : Plane) (secondaryThreshold : ℤ) (exceptional : Bool)
    (pixel : ℕ) : Bool :=
  if exceptional then (pixelAt secondary pixel).toInt16.toInt > secondaryThreshold
  else (pixelAt secondary pixel).toInt16.toInt < secondaryThreshold

/-- The pixels that the loop does not pass over. -/
def walkStarts (secondary : Plane) (inputMask : PixelMask)
    (secondaryThreshold gradientThreshold : ℤ) (exceptional : Bool) (pixel : ℕ) : Bool :=
  !(maskAt inputMask pixel == 0 ||
    (!secondaryTrigger secondary secondaryThreshold exceptional pixel &&
      (pixelAt (buildResolutionFilteredGradient secondary inputMask) pixel).toInt16.toInt ≤
        gradientThreshold))

def ridgeWalkFrom (secondary : Plane) (inputMask : PixelMask) (exceptional : Bool) (steps : ℕ)
    (pixel : ℕ) : Option RidgeWalk :=
  let gradients := buildResolutionGradients secondary inputMask
  ridgeWalk (walkedGradient gradients exceptional) (walkedDirections gradients exceptional) steps
    ⟨pixel, 0⟩

/-- `goodix_chicago_preprocessor_build_resolution_primary_plane`; it fails if a walk reads outside
the image. -/
def buildResolutionPrimaryPlane (secondary : Plane) (inputMask : PixelMask)
    (secondaryThreshold gradientThreshold : ℤ) (exceptional : Bool) : Option Plane :=
  Collect.collect fun (pixel : Fin pixels) =>
    if walkStarts secondary inputMask secondaryThreshold gradientThreshold exceptional pixel then
      (ridgeWalkFrom secondary inputMask exceptional walkLimit pixel).map RidgeWalk.primary
    else some 0

/-! ### The trail of a walk -/

/-- The entry that a walk reads at a pixel. -/
def ridgeCell (secondary : Plane) (inputMask : PixelMask) (exceptional : Bool) (pixel : ℕ) :
    GradientCell :=
  if exceptional then (pixelGradients secondary inputMask pixel).falling
  else (pixelGradients secondary inputMask pixel).rising

def ridgeNext (secondary : Plane) (inputMask : PixelMask) (exceptional : Bool) (pixel : ℕ) :
    Option ℕ :=
  let direction := (ridgeCell secondary inputMask exceptional pixel).direction
  if direction = noDirection then none else neighborAt pixel direction.toNat

/-- What the walk climbs. -/
def ridgeLevel (secondary : Plane) (exceptional : Bool) (pixel : ℕ) : ℤ :=
  if exceptional then -(pixelAt secondary pixel).toNat else (pixelAt secondary pixel).toNat

/-- The gradient read at a pixel. -/
def ridgeGradient (secondary : Plane) (inputMask : PixelMask) (exceptional : Bool)
    (pixel : ℕ) : ℕ :=
  (ridgeCell secondary inputMask exceptional pixel).gradient.toNat

/-- A pixel of the image that the mask enables. -/
def Enabled (inputMask : PixelMask) (pixel : ℕ) : Prop :=
  pixel < pixels ∧ maskAt inputMask pixel ≠ 0

variable {secondary : Plane} {inputMask : PixelMask} {exceptional : Bool}

lemma readAt_ofFn {α : Type} (f : Fin pixels → α) {pixel : ℕ} (inside : pixel < pixels) :
    readAt (Vector.ofFn f) (pixel : ℤ) = some (f ⟨pixel, inside⟩) := by
  rw [readAt, if_neg (by omega), Int.toNat_natCast]
  simp [inside]

lemma ridgeCell_leads (secondary : Plane) (inputMask : PixelMask) (exceptional : Bool) (pixel : ℕ) :
    Leads inputMask (ridgeLevel secondary exceptional) pixel
      (ridgeCell secondary inputMask exceptional pixel) := by
  obtain ⟨falling, rising⟩ := pixelGradients_lead secondary inputMask pixel
  unfold ridgeCell
  cases exceptional with
  | true => exact falling
  | false => exact rising

lemma read_walkedDirections {pixel : ℕ} (inside : pixel < pixels) :
    readAt (walkedDirections (buildResolutionGradients secondary inputMask) exceptional) pixel =
      some (ridgeCell secondary inputMask exceptional pixel).direction := by
  cases exceptional with
  | true => exact readAt_ofFn _ inside
  | false => exact readAt_ofFn _ inside

lemma read_walkedGradient {pixel : ℕ} (inside : pixel < pixels) :
    readAt (walkedGradient (buildResolutionGradients secondary inputMask) exceptional) pixel =
      some (ridgeCell secondary inputMask exceptional pixel).gradient := by
  cases exceptional with
  | true => exact readAt_ofFn _ inside
  | false => exact readAt_ofFn _ inside

/-- The two tables describe the same neighbours. -/
lemma walkOffsets_delta : ∀ direction < 8, walkOffsets[direction]? =
    some (deltaY.getD direction 0 * imageWidth + deltaX.getD direction 0) := by decide

lemma neighborAt_eq {pixel direction neighbor : ℕ}
    (near : neighborAt pixel direction = some neighbor) :
    (pixel : ℤ) + (deltaY.getD direction 0 * imageWidth + deltaX.getD direction 0) = neighbor := by
  simp only [neighborAt, Option.ite_none_left_eq_some, Option.some.injEq, imageWidth,
    imageHeight] at near
  obtain ⟨inside, rfl⟩ := near
  generalize deltaX.getD direction 0 = right at inside ⊢
  generalize deltaY.getD direction 0 = down at inside ⊢
  simp only [imageWidth]
  omega

/-- A walk knows its steps: it stops, or it moves to the neighbour and adds the gradient. -/
lemma ridgeNext_cases (secondary : Plane) (inputMask : PixelMask) (exceptional : Bool) (pixel : ℕ) :
    (ridgeCell secondary inputMask exceptional pixel).direction = noDirection ∧
        ridgeNext secondary inputMask exceptional pixel = none ∨
      ∃ neighbor offset,
        (ridgeCell secondary inputMask exceptional pixel).direction ≠ noDirection ∧
        ridgeNext secondary inputMask exceptional pixel = some neighbor ∧
        walkOffsets[(ridgeCell secondary inputMask exceptional pixel).direction.toNat]? =
          some offset ∧
        (pixel : ℤ) + offset = neighbor ∧ Enabled inputMask neighbor ∧
        ridgeLevel secondary exceptional neighbor = ridgeLevel secondary exceptional pixel +
          ridgeGradient secondary inputMask exceptional pixel ∧
        0 < ridgeGradient secondary inputMask exceptional pixel := by
  rcases ridgeCell_leads secondary inputMask exceptional pixel with
    empty | ⟨direction, small, neighbor, chosen, near, enabled, rise, positive⟩
  · refine Or.inl ⟨by rw [empty]; rfl, ?_⟩
    rw [ridgeNext, empty]
    rfl
  · have read : (ridgeCell secondary inputMask exceptional pixel).direction.toNat = direction := by
      rw [chosen, UInt8.toNat_ofNat']
      omega
    have moves : (ridgeCell secondary inputMask exceptional pixel).direction ≠ noDirection := by
      intro stops
      rw [stops] at read
      have top : noDirection.toNat = 255 := rfl
      omega
    refine Or.inr ⟨neighbor, _, moves, ?_, by rw [read, walkOffsets_delta direction small],
      neighborAt_eq near, ⟨neighborAt_inside near, enabled⟩, rise, positive⟩
    rw [ridgeNext, if_neg moves, read, near]

/-- What a step reaches. -/
lemma ridgeNext_some {a b : ℕ} (next : ridgeNext secondary inputMask exceptional a = some b) :
    Enabled inputMask b ∧
      ridgeLevel secondary exceptional b = ridgeLevel secondary exceptional a +
        ridgeGradient secondary inputMask exceptional a ∧
      0 < ridgeGradient secondary inputMask exceptional a := by
  rcases ridgeNext_cases secondary inputMask exceptional a with
    ⟨-, stops⟩ | ⟨neighbor, offset, -, moves, -, -, reached⟩
  · rw [stops] at next
    cases next
  · rw [moves, Option.some.injEq] at next
    rwa [← next]

/-- A walk of the code is a trail, and its sum is the sum of the gradients modulo 2¹⁶. -/
lemma ridgeWalk_trail (secondary : Plane) (inputMask : PixelMask) (exceptional : Bool) (steps : ℕ)
    {pixel : ℕ} (inside : pixel < pixels) (sum : UInt16) :
    ∃ path last,
      Trail.Follows (ridgeNext secondary inputMask exceptional) pixel path last ∧
      ridgeWalk (walkedGradient (buildResolutionGradients secondary inputMask) exceptional)
          (walkedDirections (buildResolutionGradients secondary inputMask) exceptional) steps
          ⟨pixel, sum⟩ =
        some ⟨last, sum + UInt16.ofNat
          (path.map (ridgeGradient secondary inputMask exceptional)).sum⟩ ∧
      path.length ≤ steps ∧
      (path.length = steps ∨ ridgeNext secondary inputMask exceptional last = none) := by
  induction steps generalizing pixel sum with
  | zero => exact ⟨[], pixel, .stop pixel, by simp [ridgeWalk], le_rfl, Or.inl rfl⟩
  | succ steps ih =>
    rw [ridgeWalk, read_walkedDirections inside, Option.bind_eq_bind, Option.bind_some]
    rcases ridgeNext_cases secondary inputMask exceptional pixel with
      ⟨none, stops⟩ | ⟨neighbor, offset, some, moves, listed, arrives, enabled, -⟩
    · rw [if_pos none]
      exact ⟨[], pixel, .stop pixel, by simp, Nat.zero_le _, Or.inr stops⟩
    · rw [if_neg some, read_walkedGradient inside, listed]
      obtain ⟨path, last, trail, walked, short, why⟩ := ih enabled.1
        (sum + (ridgeCell secondary inputMask exceptional pixel).gradient)
      refine ⟨pixel :: path, last, .leave moves trail, ?_, ?_, ?_⟩
      · have added : sum + (ridgeCell secondary inputMask exceptional pixel).gradient +
            UInt16.ofNat (path.map (ridgeGradient secondary inputMask exceptional)).sum =
          sum + UInt16.ofNat
            ((pixel :: path).map (ridgeGradient secondary inputMask exceptional)).sum := by
          rw [List.map_cons, List.sum_cons, UInt16.ofNat_add, ridgeGradient, UInt16.ofNat_toNat,
            UInt16.add_assoc]
        rw [Option.bind_eq_bind, Option.bind_some, Option.bind_eq_bind, Option.bind_some, arrives,
          walked, added]
      · exact Nat.succ_le_succ short
      · exact why.imp_left fun all => congrArg Nat.succ all

/-- What a walk of so many steps has done: it has left `path` and stands at `last`. -/
structure RidgeTrail (secondary : Plane) (inputMask : PixelMask) (exceptional : Bool)
    (steps pixel : ℕ) (path : List ℕ) (last : ℕ) : Prop where
  follows : Trail.Follows (ridgeNext secondary inputMask exceptional) pixel path last
  short : path.length ≤ steps
  ends : path.length = steps ∨ ridgeNext secondary inputMask exceptional last = none
  enabled : ∀ v ∈ path ++ [last], Enabled inputMask v
  climbs : (path ++ [last]).Pairwise fun v w =>
    ridgeLevel secondary exceptional v < ridgeLevel secondary exceptional w
  narrow : (path.map (ridgeGradient secondary inputMask exceptional)).sum < 65536
  telescopes : (path.map (ridgeGradient secondary inputMask exceptional)).sum =
    (((pixelAt secondary pixel).toNat : ℤ) - (pixelAt secondary last).toNat).natAbs

lemma ridgeLevel_rise {pixel last total : ℕ}
    (rise : ridgeLevel secondary exceptional last =
      ridgeLevel secondary exceptional pixel + total) :
    total = (((pixelAt secondary pixel).toNat : ℤ) - (pixelAt secondary last).toNat).natAbs := by
  unfold ridgeLevel at rise
  cases exceptional with
  | true =>
    rw [if_pos rfl, if_pos rfl] at rise
    omega
  | false =>
    rw [if_neg Bool.false_ne_true, if_neg Bool.false_ne_true] at rise
    omega

/-- After any number of steps a walk that started in the mask has stayed there. -/
lemma ridgeWalkFrom_trail (secondary : Plane) (exceptional : Bool) (steps : ℕ) {pixel : ℕ}
    (start : Enabled inputMask pixel) :
    ∃ path last, RidgeTrail secondary inputMask exceptional steps pixel path last ∧
      ∃ walk, ridgeWalkFrom secondary inputMask exceptional steps pixel = some walk ∧
        walk.current = last ∧
        walk.primary.toNat = (path.map (ridgeGradient secondary inputMask exceptional)).sum := by
  obtain ⟨path, last, follows, walked, short, ends⟩ :=
    ridgeWalk_trail secondary inputMask exceptional steps start.1 0
  obtain ⟨visited, reached⟩ := follows.keeps (fun _ _ next _ => (ridgeNext_some next).1) start
  have telescopes : (path.map (ridgeGradient secondary inputMask exceptional)).sum =
      (((pixelAt secondary pixel).toNat : ℤ) - (pixelAt secondary last).toNat).natAbs :=
    ridgeLevel_rise (follows.total fun _ _ next => (ridgeNext_some next).2.1)
  have narrow : (path.map (ridgeGradient secondary inputMask exceptional)).sum < 65536 := by
    have first := (pixelAt secondary pixel).toNat_lt
    have second := (pixelAt secondary last).toNat_lt
    omega
  have climbs := follows.rising (ridgeLevel secondary exceptional) fun a b next => by
    obtain ⟨-, rise, positive⟩ := ridgeNext_some next
    omega
  refine ⟨path, last, ⟨follows, short, ends, ?_, climbs, narrow, telescopes⟩, _, walked, rfl, ?_⟩
  · rw [List.forall_mem_append]
    exact ⟨visited, fun v mem => List.mem_singleton.mp mem ▸ reached⟩
  · rw [UInt16.zero_add, UInt16.toNat_ofNat', Nat.mod_eq_of_lt narrow]

lemma enabled_of_starts {secondaryThreshold gradientThreshold : ℤ} {pixel : ℕ}
    (inside : pixel < pixels) (starts : walkStarts secondary inputMask secondaryThreshold
      gradientThreshold exceptional pixel = true) : Enabled inputMask pixel := by
  refine ⟨inside, fun disabled => ?_⟩
  rw [walkStarts, disabled] at starts
  cases starts

/-- The plane is made, and each of its entries is the rise of a walk. -/
lemma buildResolutionPrimaryPlane_made (secondary : Plane) (inputMask : PixelMask)
    (secondaryThreshold gradientThreshold : ℤ) (exceptional : Bool) :
    ∃ primary, buildResolutionPrimaryPlane secondary inputMask secondaryThreshold gradientThreshold
        exceptional = some primary ∧
      ∀ pixel < pixels,
        if walkStarts secondary inputMask secondaryThreshold gradientThreshold exceptional
            pixel then
          ∃ path last, RidgeTrail secondary inputMask exceptional walkLimit pixel path last ∧
            (pixelAt primary pixel).toNat =
              (((pixelAt secondary pixel).toNat : ℤ) - (pixelAt secondary last).toNat).natAbs
        else pixelAt primary pixel = 0 := by
  unfold buildResolutionPrimaryPlane
  have present (pixel : Fin pixels) :
      (if walkStarts secondary inputMask secondaryThreshold gradientThreshold exceptional pixel then
        (ridgeWalkFrom secondary inputMask exceptional walkLimit pixel).map RidgeWalk.primary
      else some 0).isSome = true := by
    split
    · rename_i starts
      obtain ⟨path, last, -, walk, walked, -⟩ :=
        ridgeWalkFrom_trail secondary exceptional walkLimit (enabled_of_starts pixel.2 starts)
      rw [walked]
      rfl
    · rfl
  obtain ⟨primary, built⟩ := Option.isSome_iff_exists.mp (Collect.collect_isSome present)
  refine ⟨primary, built, fun pixel inside => ?_⟩
  have value := Collect.collect_eq_some_iff.mp built ⟨pixel, inside⟩
  rw [pixelAt_eq primary inside]
  split at value
  · rename_i starts
    obtain ⟨path, last, trail, walk, walked, -, sum⟩ :=
      ridgeWalkFrom_trail secondary exceptional walkLimit (enabled_of_starts inside starts)
    rw [walked, Option.map_some, Option.some.injEq] at value
    rw [if_pos starts]
    exact ⟨path, last, trail, by rw [← trail.telescopes, ← sum, value]; rfl⟩
  · rename_i passed
    rw [if_neg passed]
    exact (Option.some.inj value).symm

/-- The walks of the primary plane stay in the image and in the mask for every number of steps, and
what they add up is the difference of the secondary plane between their ends. -/
theorem ridge_walks_telescope (secondary : Plane) (inputMask : PixelMask)
    (secondaryThreshold gradientThreshold : ℤ) (exceptional : Bool) :
    (∀ pixel < pixels, maskAt inputMask pixel ≠ 0 → ∀ steps, ∃ path last,
      RidgeTrail secondary inputMask exceptional steps pixel path last ∧
        ∃ walk, ridgeWalkFrom secondary inputMask exceptional steps pixel = some walk ∧
          walk.current = last ∧
          walk.primary.toNat = (path.map (ridgeGradient secondary inputMask exceptional)).sum) ∧
    ∃ primary, buildResolutionPrimaryPlane secondary inputMask secondaryThreshold gradientThreshold
        exceptional = some primary ∧
      ∀ pixel < pixels,
        if walkStarts secondary inputMask secondaryThreshold gradientThreshold exceptional
            pixel then
          ∃ path last, RidgeTrail secondary inputMask exceptional walkLimit pixel path last ∧
            (pixelAt primary pixel).toNat =
              (((pixelAt secondary pixel).toNat : ℤ) - (pixelAt secondary last).toNat).natAbs
        else pixelAt primary pixel = 0 :=
  ⟨fun _ inside enabled steps =>
    ridgeWalkFrom_trail secondary exceptional steps ⟨inside, enabled⟩,
    buildResolutionPrimaryPlane_made secondary inputMask secondaryThreshold gradientThreshold
      exceptional⟩

end GoodixSpi.Chicago
