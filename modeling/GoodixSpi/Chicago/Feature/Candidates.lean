import GoodixSpi.Chicago.Feature.Extrema

/-! The candidates of an image. Refined extrema come first; where there are few of them, extrema
that were not accepted follow. No pixel gives two candidates. -/

namespace GoodixSpi.Chicago

open CArithmetic Reinterpret

/-- The images that a candidate is materialized from. -/
structure FeatureImages where
  featureSource : FeatureImage
  magnitude : MagnitudePlane
  orientation : OrientationPlane

structure CandidateScan where
  collected : List Materialized
  visited : Vector UInt8 pixels
  fallback : List FeatureCandidate

def candidatePixel (candidate : FeatureCandidate) : ℕ :=
  (candidate.y.toInt * imageWidth + candidate.x.toInt).toNat

/-- `FALLBACK_CAPACITY`. -/
abbrev fallbackCapacity : ℕ := 600

/-- An extremum as it was found, with the scale value of its plane. -/
def fallbackCandidate (extremum : FeatureExtremum) : FeatureCandidate where
  x := Int32.ofInt extremum.x
  y := Int32.ofInt extremum.y
  scale := Int32.ofInt extremum.scale
  strength := Int32.ofInt extremum.response
  refinedX := Int16.ofInt (extremum.x * 0x100)
  refinedY := Int16.ofInt (extremum.y * 0x100)
  scaleValue := Int32.ofInt
    ((chicagoExp2Q16 (quotient (extremum.scale * 0x10000) 6)).toNat * 0x13333 / 0x10000 : ℕ)

section Scan

variable (images : FeatureImages) (capacity : ℕ)

/-- The body of both loops: a pixel is used once, and materialized while there is room. None where
the interpolation divides by zero. -/
def offerCandidate (scan : CandidateScan) (candidate : FeatureCandidate) : Option CandidateScan :=
  let pixel := candidatePixel candidate
  let visited := scan.visited.setIfInBounds pixel 1
  if scan.visited.toList.getD pixel 0 ≠ 0 then some scan
  else if scan.collected.length < capacity then
    (materializeCandidate images.featureSource images.magnitude images.orientation candidate
      (UInt32.ofNat scan.collected.length)).map fun materialized =>
        { scan with collected := scan.collected ++ [materialized], visited }
  else some { scan with visited }

/-- The first loop, for one extremum. -/
def scanExtremum (scales : List Plane) (scan : CandidateScan) (extremum : FeatureExtremum) :
    Option CandidateScan :=
  match refineExtremum scales extremum.candidate with
  | (candidate, some _) => offerCandidate images capacity scan candidate
  | (_, none) =>
    if scan.fallback.length < fallbackCapacity then
      some { scan with fallback := scan.fallback ++ [fallbackCandidate extremum] }
    else some scan

/-- The second loop, over what is left of the fallback candidates. -/
def scanFallback : List FeatureCandidate → CandidateScan → Option CandidateScan
  | [], scan => some scan
  | candidate :: rest, scan =>
    if scan.collected.length ≤ 119 then
      (offerCandidate images capacity scan candidate).bind (scanFallback rest)
    else some scan

/-- Where few extrema were accepted, the others are offered too. -/
def fillFromFallback (scan : CandidateScan) : Option CandidateScan :=
  if scan.collected.length ≤ 59 then scanFallback images capacity scan.fallback scan else some scan

/-- `goodix_chicago_feature_collect_candidates`. -/
def collectCandidates (scales : List Plane) : Option (List Materialized) := do
  let extremaCount := (collectExtrema scales 0).2
  let extrema := (collectExtrema scales extremaCount).1
  let scan ← extrema.foldlM (scanExtremum images capacity scales)
    ⟨[], Vector.replicate pixels 0, []⟩
  let filled ← fillFromFallback images capacity scan
  some filled.collected

end Scan

/-! ### What a scan has collected -/

lemma fallbackCandidate_placed {extremum : FeatureExtremum} (inside : extremum.Inside) :
    (fallbackCandidate extremum).Placed := by
  obtain ⟨left, right, top, bottom, low, high, -⟩ := inside
  have width : (imageWidth : ℤ) = 80 := rfl
  have height : (imageHeight : ℤ) = 64 := rfl
  have column : (fallbackCandidate extremum).x.toInt = extremum.x :=
    Int32.toInt_ofInt_of_le (by omega) (by omega)
  have line : (fallbackCandidate extremum).y.toInt = extremum.y :=
    Int32.toInt_ofInt_of_le (by omega) (by omega)
  have refinedX : (fallbackCandidate extremum).refinedX.toInt = extremum.x * 0x100 :=
    Int16.toInt_ofInt_of_le (by omega) (by omega)
  have refinedY : (fallbackCandidate extremum).refinedY.toInt = extremum.y * 0x100 :=
    Int16.toInt_ofInt_of_le (by omega) (by omega)
  have exponent : 0 < quotient (extremum.scale * 0x10000) 6 ∧
      quotient (extremum.scale * 0x10000) 6 < 0x20000 := by
    rw [quotient, Int.tdiv_eq_ediv_of_nonneg (by omega)]
    omega
  obtain ⟨low', high'⟩ := chicagoExp2Q16_range exponent.1 exponent.2
  have value : (fallbackCandidate extremum).scaleValue.toInt =
      ((chicagoExp2Q16 (quotient (extremum.scale * 0x10000) 6)).toNat * 0x13333 / 0x10000 : ℕ) :=
    Int32.toInt_ofInt_of_le (by omega) (by omega)
  refine ⟨⟨?_, ?_, ?_, ?_⟩, ?_, ?_, ?_, ?_, ?_⟩ <;> omega

lemma candidatePixel_lt {candidate : FeatureCandidate} (interior : candidate.Interior) :
    candidatePixel candidate < pixels := by
  obtain ⟨left, right, top, bottom⟩ := interior
  unfold candidatePixel
  simp only [imageWidth, imageHeight, pixels] at *
  omega

/-- What was collected for the candidate in place `index`. -/
def FeatureImages.Gives (images : FeatureImages) (candidate : FeatureCandidate) (index : ℕ)
    (materialized : Materialized) : Prop :=
  materializeCandidate images.featureSource images.magnitude images.orientation candidate
    (UInt32.ofNat index) = some materialized

/-- The candidates behind what a scan has collected, in its order. -/
structure CandidateScan.From (images : FeatureImages) (capacity : ℕ) (scan : CandidateScan)
    (candidates : List FeatureCandidate) : Prop where
  few : scan.collected.length ≤ capacity
  length : candidates.length = scan.collected.length
  gives : ∀ index candidate materialized, candidates[index]? = some candidate →
    scan.collected[index]? = some materialized → images.Gives candidate index materialized
  placed : ∀ candidate ∈ candidates, candidate.Placed
  visited : ∀ candidate ∈ candidates, scan.visited.toList.getD (candidatePixel candidate) 0 ≠ 0
  distinct : (candidates.map candidatePixel).Nodup
  fallback : ∀ candidate ∈ scan.fallback, candidate.Placed

section Sound

variable {images : FeatureImages} {capacity : ℕ} {scan after : CandidateScan}
  {candidates : List FeatureCandidate}

lemma CandidateScan.From.start (images : FeatureImages) (capacity : ℕ) :
    CandidateScan.From images capacity ⟨[], Vector.replicate pixels 0, []⟩ [] where
  few := Nat.zero_le capacity
  length := rfl
  gives _ _ _ found := by cases found
  placed _ listed := absurd listed List.not_mem_nil
  visited _ listed := absurd listed List.not_mem_nil
  distinct := List.nodup_nil
  fallback _ listed := absurd listed List.not_mem_nil

/-- A visited pixel stays visited. -/
lemma getD_setIfInBounds_ne_zero {visited : Vector UInt8 pixels} {pixel other : ℕ}
    (inside : pixel < pixels) (marked : other = pixel ∨ visited.toList.getD other 0 ≠ 0) :
    (visited.setIfInBounds pixel 1).toList.getD other 0 ≠ 0 := by
  rw [Vector.toList_setIfInBounds, List.getD_eq_getElem?_getD, List.getElem?_set]
  split
  · next same =>
    rw [if_pos (by rw [Vector.length_toList]; exact inside)]
    decide
  · next other_ne =>
    rw [← List.getD_eq_getElem?_getD]
    exact marked.resolve_left fun same => other_ne same.symm

/-- One candidate more, or none. -/
lemma CandidateScan.From.offer (sound : scan.From images capacity candidates)
    {candidate : FeatureCandidate} (placed : candidate.Placed)
    (offered : offerCandidate images capacity scan candidate = some after) :
    ∃ more, after.From images capacity (candidates ++ more) := by
  have inside := candidatePixel_lt placed.interior
  unfold offerCandidate at offered
  dsimp only at offered
  split at offered
  · cases offered
    exact ⟨[], by rwa [List.append_nil]⟩
  · next fresh =>
    split at offered
    · next room =>
      obtain ⟨materialized, given, rfl⟩ := Option.map_eq_some_iff.mp offered
      refine ⟨[candidate], ⟨?_, ?_, ?_, ?_, ?_, ?_, sound.fallback⟩⟩
      · rw [List.length_append]
        exact room
      · rw [List.length_append, List.length_append, sound.length]
        rfl
      · intro index other result found here
        rcases Nat.lt_or_ge index scan.collected.length with early | late
        · rw [List.getElem?_append_left (by rw [sound.length]; exact early)] at found
          rw [List.getElem?_append_left early] at here
          exact sound.gives index other result found here
        · rw [List.getElem?_append_right (by rw [sound.length]; exact late)] at found
          rw [List.getElem?_append_right late] at here
          have last : index = scan.collected.length := by
            have bound := (List.getElem?_eq_some_iff.mp here).1
            rw [List.length_singleton] at bound
            omega
          rw [last, sound.length, Nat.sub_self] at found
          rw [last, Nat.sub_self] at here
          cases found
          cases here
          rw [last]
          exact given
      · intro other listed
        rcases List.mem_append.mp listed with old | new
        · exact sound.placed other old
        · exact List.mem_singleton.mp new ▸ placed
      · intro other listed
        rcases List.mem_append.mp listed with old | new
        · exact getD_setIfInBounds_ne_zero inside (.inr (sound.visited other old))
        · exact getD_setIfInBounds_ne_zero inside (.inl (by rw [List.mem_singleton.mp new]))
      · rw [List.map_append, List.nodup_append]
        refine ⟨sound.distinct, List.nodup_singleton _, ?_⟩
        intro pixel old other new same
        obtain ⟨earlier, listed, rfl⟩ := List.mem_map.mp old
        rw [List.map_singleton, List.mem_singleton] at new
        rw [new] at same
        exact sound.visited earlier listed (by rw [same]; exact not_not.mp fresh)
    · cases offered
      refine ⟨[], ⟨sound.few, ?_, ?_, ?_, ?_, ?_, sound.fallback⟩⟩ <;>
        rw [List.append_nil]
      · exact sound.length
      · exact sound.gives
      · exact sound.placed
      · exact fun other listed =>
          getD_setIfInBounds_ne_zero inside (.inr (sound.visited other listed))
      · exact sound.distinct

/-- An extremum gives a candidate, is kept for later, or does nothing. -/
lemma CandidateScan.From.extremum {scales : List Plane}
    (sound : scan.From images capacity candidates) {extremum : FeatureExtremum}
    (inside : extremum.Inside)
    (scanned : scanExtremum images capacity scales scan extremum = some after) :
    ∃ more, after.From images capacity (candidates ++ more) := by
  unfold scanExtremum at scanned
  split at scanned
  · next candidate curvature refined =>
    exact sound.offer (refineExtremum_placed inside refined) scanned
  · refine ⟨[], ?_⟩
    rw [List.append_nil]
    split at scanned
    · cases scanned
      refine { sound with fallback := fun candidate listed => ?_ }
      rcases List.mem_append.mp listed with old | new
      · exact sound.fallback candidate old
      · exact List.mem_singleton.mp new ▸ fallbackCandidate_placed inside
    · cases scanned
      exact sound

lemma CandidateScan.From.extrema {scales : List Plane} {extrema : List FeatureExtremum}
    (inside : ∀ extremum ∈ extrema, extremum.Inside)
    (sound : scan.From images capacity candidates)
    (scanned : extrema.foldlM (scanExtremum images capacity scales) scan = some after) :
    ∃ more, after.From images capacity (candidates ++ more) := by
  induction extrema generalizing scan candidates with
  | nil =>
    cases scanned
    exact ⟨[], by rwa [List.append_nil]⟩
  | cons extremum rest ih =>
    rw [List.foldlM_cons] at scanned
    obtain ⟨next, first, later⟩ := Option.bind_eq_some_iff.mp scanned
    obtain ⟨more, sound'⟩ := sound.extremum (inside extremum List.mem_cons_self) first
    obtain ⟨others, sound''⟩ :=
      ih (fun other listed => inside other (List.mem_cons_of_mem extremum listed)) sound' later
    exact ⟨more ++ others, by rwa [← List.append_assoc]⟩

lemma CandidateScan.From.scanFallback {fallback : List FeatureCandidate}
    (placed : ∀ candidate ∈ fallback, candidate.Placed)
    (sound : scan.From images capacity candidates)
    (scanned : scanFallback images capacity fallback scan = some after) :
    ∃ more, after.From images capacity (candidates ++ more) := by
  induction fallback generalizing scan candidates with
  | nil =>
    cases scanned
    exact ⟨[], by rwa [List.append_nil]⟩
  | cons candidate rest ih =>
    unfold Chicago.scanFallback at scanned
    split at scanned
    · obtain ⟨next, first, later⟩ := Option.bind_eq_some_iff.mp scanned
      obtain ⟨more, sound'⟩ := sound.offer (placed candidate List.mem_cons_self) first
      obtain ⟨others, sound''⟩ :=
        ih (fun other listed => placed other (List.mem_cons_of_mem candidate listed)) sound' later
      exact ⟨more ++ others, by rwa [← List.append_assoc]⟩
    · cases scanned
      exact ⟨[], by rwa [List.append_nil]⟩

end Sound

/-- What the collection returns: at most `capacity` candidates, each materialized under its own
index from a place inside the image, no two of them on one pixel. -/
theorem collect_candidates_from {images : FeatureImages} {capacity : ℕ} {scales : List Plane}
    {collected : List Materialized}
    (returned : collectCandidates images capacity scales = some collected) :
    ∃ scan candidates, scan.collected = collected ∧
      CandidateScan.From images capacity scan candidates := by
  unfold collectCandidates at returned
  simp only [collectExtrema_eq, List.take_length] at returned
  obtain ⟨first, scanned, rest⟩ := Option.bind_eq_some_iff.mp returned
  obtain ⟨last, later, here⟩ := Option.bind_eq_some_iff.mp rest
  cases here
  obtain ⟨candidates, sound⟩ := CandidateScan.From.extrema
    (fun extremum listed => allExtrema_inside listed) (.start images capacity) scanned
  rw [List.nil_append] at sound
  unfold fillFromFallback at later
  split at later
  · obtain ⟨more, sound'⟩ := CandidateScan.From.scanFallback sound.fallback sound later
    exact ⟨last, candidates ++ more, rfl, sound'⟩
  · cases later
    exact ⟨first, candidates, rfl, sound⟩

/-! ### When the collection ends -/

/-- Around no place of the image do the votes have a flat peak, and all of them have a bin. -/
structure FeatureImages.Peaked (images : FeatureImages) : Prop where
  bins : ∀ candidate, BinsInside images.orientation candidate
  peak : ∀ candidate : FeatureCandidate, candidate.Placed →
    ¬FlatPeak images.magnitude images.orientation candidate

section Defined

variable {images : FeatureImages} {capacity : ℕ} {scales : List Plane} {scan : CandidateScan}

lemma FeatureImages.Peaked.offer (peaked : images.Peaked) {candidate : FeatureCandidate}
    (placed : candidate.Placed) :
    ∃ after, offerCandidate images capacity scan candidate = some after := by
  unfold offerCandidate
  dsimp only
  split
  · exact ⟨_, rfl⟩
  split
  · obtain ⟨materialized, defined, -⟩ := ((orientationSafe_iff_of_bins (peaked.bins candidate)
      placed.interior).mpr (peaked.peak candidate placed)).defined
    exact ⟨_, by rw [defined]; rfl⟩
  · exact ⟨_, rfl⟩

lemma FeatureImages.Peaked.extrema (peaked : images.Peaked) {extrema : List FeatureExtremum}
    (inside : ∀ extremum ∈ extrema, extremum.Inside) :
    ∃ after, extrema.foldlM (scanExtremum images capacity scales) scan = some after := by
  induction extrema generalizing scan with
  | nil => exact ⟨scan, rfl⟩
  | cons extremum rest ih =>
    have once : ∃ next, scanExtremum images capacity scales scan extremum = some next := by
      unfold scanExtremum
      split
      · next candidate curvature refined =>
        exact peaked.offer (refineExtremum_placed (inside extremum List.mem_cons_self) refined)
      · split
        · exact ⟨_, rfl⟩
        · exact ⟨_, rfl⟩
    obtain ⟨next, first⟩ := once
    rw [List.foldlM_cons, first]
    exact ih fun other listed => inside other (List.mem_cons_of_mem extremum listed)

lemma FeatureImages.Peaked.scanFallback (peaked : images.Peaked)
    {fallback : List FeatureCandidate} (placed : ∀ candidate ∈ fallback, candidate.Placed) :
    ∃ after, scanFallback images capacity fallback scan = some after := by
  induction fallback generalizing scan with
  | nil => exact ⟨scan, rfl⟩
  | cons candidate rest ih =>
    unfold Chicago.scanFallback
    split
    · obtain ⟨next, offered⟩ := peaked.offer (placed candidate List.mem_cons_self)
      rw [offered]
      exact ih fun other listed => placed other (List.mem_cons_of_mem candidate listed)
    · exact ⟨scan, rfl⟩

/-- Without flat peaks nothing is divided by zero. -/
lemma FeatureImages.Peaked.collectCandidates (peaked : images.Peaked) (capacity : ℕ)
    (scales : List Plane) :
    ∃ collected, collectCandidates images capacity scales = some collected := by
  unfold Chicago.collectCandidates
  simp only [collectExtrema_eq, List.take_length]
  have inside : ∀ extremum ∈ allExtrema scales, extremum.Inside :=
    fun extremum listed => allExtrema_inside listed
  obtain ⟨scan, scanned⟩ := peaked.extrema inside
  obtain ⟨candidates, sound⟩ :=
    CandidateScan.From.extrema inside (.start images capacity) scanned
  have filled : ∃ after, fillFromFallback images capacity scan = some after := by
    unfold fillFromFallback
    split
    · exact peaked.scanFallback sound.fallback
    · exact ⟨scan, rfl⟩
  obtain ⟨after, filled⟩ := filled
  rw [scanned]
  exact ⟨after.collected, by simp only [Option.bind_eq_bind, Option.bind_some, filled]⟩

end Defined

end GoodixSpi.Chicago
