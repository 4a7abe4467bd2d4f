import GoodixSpi.Chicago.Match.RefineRange
import GoodixSpi.Chicago.Match.Template
import GoodixSpi.Chicago.Match.TransformRange
import GoodixSpi.Chicago.Match.UniquePairs
import GoodixSpi.Chicago.Packed.Lifecycle
import Mathlib.Data.List.Infix

/-! The signed arithmetic of a match against a stored print. What a search meets is said of every
comparison that it makes; it overflows where stored points lie too far apart, and where a triple
of pairs gives a transform with a large trace. -/

namespace GoodixSpi.Chicago

open CArithmetic

/-! ### The selection of candidates -/

/-- The entries that a candidate is compared with, in order. -/
def comparedEntries (near : Selected → Bool) (candidate : Selected) :
    Nat → Bool → List Selected → List Selected
  | 0, _, _ => []
  | _ + 1, _, [] => []
  | fuel + 1, replaced, existing :: rest =>
    existing ::
      if near existing = false then comparedEntries near candidate fuel replaced rest
      else if existing.bestDistance ≤ candidate.bestDistance then
        if replaced then comparedEntries near candidate fuel replaced rest else []
      else if replaced = false then comparedEntries near candidate fuel true rest
      else comparedEntries near candidate fuel replaced rest.dropLast

/-- What every comparison of `goodix_chicago_match_select_candidates` meets. -/
def SelectMeets (compared : FeatureRecord → FeatureRecord → Prop)
    (newRecords : List FeatureRecord) (candidates : List MatchCandidate)
    (limit bestMultiplier secondMultiplier : Nat) : Prop :=
  let accepted := acceptedCandidates candidates bestMultiplier secondMultiplier
  ∀ n candidate, accepted[n]? = some (some candidate) →
    let entries := selectedAfter limit newRecords (accepted.take n)
    ∀ existing ∈ comparedEntries (nearSelected newRecords candidate) candidate entries.length false
        entries,
      ∀ a b, newRecords[candidate.newIndex]? = some a → newRecords[existing.newIndex]? = some b →
        compared a b

/-- The squared distance of two records, and what it is made of. -/
def SquaredFits (a b : FeatureRecord) : Prop :=
  let dx : Int := (a.unsignedX : Int) - b.unsignedX
  let dy : Int := (a.unsignedY : Int) - b.unsignedY
  ∀ value ∈ [dx, dy, dx * dx, dy * dy, squaredDistance a b], FitsIn 32 value

lemma squaredFits_iff (a b : FeatureRecord) : SquaredFits a b ↔ squaredDistance a b < 2 ^ 31 := by
  constructor
  · intro fits
    exact (fits (squaredDistance a b) (by simp)).2
  · intro bounded value listed
    obtain ⟨⟨ax, ax'⟩, ay, ay'⟩ := a.point_word
    obtain ⟨⟨bx, bx'⟩, by', by''⟩ := b.point_word
    have x0 := mul_self_nonneg ((a.unsignedX : Int) - b.unsignedX)
    have y0 := mul_self_nonneg ((a.unsignedY : Int) - b.unsignedY)
    unfold squaredDistance at bounded
    dsimp only at bounded
    simp only [FeatureRecord.point] at ax ax' ay ay' bx bx' by' by''
    simp only [squaredDistance, List.mem_cons, List.not_mem_nil, or_false] at listed
    rcases listed with rfl | rfl | rfl | rfl | rfl
    all_goals
      rw [fitsIn_32]
      omega

lemma selectMeets_congr {compared compared' : FeatureRecord → FeatureRecord → Prop}
    {newRecords : List FeatureRecord}
    (same : ∀ a ∈ newRecords, ∀ b ∈ newRecords, compared a b ↔ compared' a b)
    (candidates : List MatchCandidate) (limit bestMultiplier secondMultiplier : Nat) :
    SelectMeets compared newRecords candidates limit bestMultiplier secondMultiplier ↔
      SelectMeets compared' newRecords candidates limit bestMultiplier secondMultiplier := by
  unfold SelectMeets
  refine forall₃_congr fun n candidate _ => forall₂_congr fun existing _ => ?_
  refine forall₄_congr fun a b here there => ?_
  exact same a (List.mem_of_getElem? here) b (List.mem_of_getElem? there)

/-! ### The search over triples -/

section Search

variable (second : PointPair → PointPair → Prop) (third : PointPair → PointPair → PointPair → Prop)
  (pairs : List PointPair) (minimumInliers : Nat) (strict : Bool)

/-- The second pair of a triple needs a third one behind it. -/
def SecondMeets (p₀ : PointPair) (search : GeometrySearch) : List PointPair → Prop
  | p₁ :: p₂ :: later => second p₀ p₁ ∧
      (edgeIsCompatible p₀ p₁ = true →
        EarlyExit.Throughout (considerThird pairs minimumInliers strict p₀ p₁)
          (fun _ p => third p₀ p₁ p) (p₂ :: later) search)
  | _ => True

def FirstMeets (search : GeometrySearch) : List PointPair → Prop
  | p₀ :: later => search.attempted < 0x3b2 →
      EarlyExit.Throughout (considerSecond pairs minimumInliers strict p₀)
        (SecondMeets second third pairs minimumInliers strict p₀) later.tails search
  | [] => True

/-- What `goodix_chicago_match_estimate_geometry` meets with every two pairs and with every three
that it looks at. -/
def EstimateMeets : Prop :=
  EarlyExit.Throughout (considerFirst pairs minimumInliers strict)
    (FirstMeets second third pairs minimumInliers strict) pairs.tails ⟨0, .init pairs.length⟩

variable {second third pairs minimumInliers strict}

section Decidable

variable [∀ p₀ p₁, Decidable (second p₀ p₁)] [∀ p₀ p₁ p₂, Decidable (third p₀ p₁ p₂)]

instance decidableSecondMeets (p₀ : PointPair) (search : GeometrySearch) : ∀ item,
    Decidable (SecondMeets second third pairs minimumInliers strict p₀ search item)
  | _ :: _ :: _ => inferInstanceAs (Decidable (_ ∧ (_ → EarlyExit.Throughout _ _ _ _)))
  | [_] => inferInstanceAs (Decidable True)
  | [] => inferInstanceAs (Decidable True)

instance decidableFirstMeets (search : GeometrySearch) : ∀ item,
    Decidable (FirstMeets second third pairs minimumInliers strict search item)
  | _ :: _ => inferInstanceAs (Decidable (_ → EarlyExit.Throughout _ _ _ _))
  | [] => inferInstanceAs (Decidable True)

instance decidableEstimateMeets :
    Decidable (EstimateMeets second third pairs minimumInliers strict) :=
  inferInstanceAs (Decidable (EarlyExit.Throughout _ _ _ _))

end Decidable

lemma mem_of_mem_tails {p : PointPair} {item : List PointPair} (listed : item ∈ pairs.tails)
    (among : p ∈ item) : p ∈ pairs :=
  ((List.mem_tails _ _).mp listed).subset among

lemma estimateMeets_congr {second' : PointPair → PointPair → Prop}
    {third' : PointPair → PointPair → PointPair → Prop}
    (seconds : ∀ p₀ ∈ pairs, ∀ p₁ ∈ pairs, second p₀ p₁ ↔ second' p₀ p₁)
    (thirds : ∀ p₀ ∈ pairs, ∀ p₁ ∈ pairs, ∀ p₂ ∈ pairs, third p₀ p₁ p₂ ↔ third' p₀ p₁ p₂) :
    EstimateMeets second third pairs minimumInliers strict ↔
      EstimateMeets second' third' pairs minimumInliers strict := by
  refine EarlyExit.throughout_congr (fun search item listed => ?_) _
  match item with
  | [] => rfl
  | p₀ :: later =>
    have first := mem_of_mem_tails listed List.mem_cons_self
    refine imp_congr_right fun _ => EarlyExit.throughout_congr (fun search item behind => ?_) _
    have inside : ∀ p ∈ item, p ∈ pairs := fun p among =>
      mem_of_mem_tails listed (.tail _ (mem_of_mem_tails behind among))
    match item with
    | [] => rfl
    | [_] => rfl
    | p₁ :: p₂ :: last =>
      refine and_congr (seconds p₀ first p₁ (inside p₁ List.mem_cons_self)) ?_
      refine imp_congr_right fun _ => EarlyExit.throughout_congr (fun _ p among => ?_) _
      exact thirds p₀ first p₁ (inside p₁ List.mem_cons_self) p (inside p (.tail _ among))

end Search

/-! ### What is formed, and what decides whether it fits -/

def SecondFits (p₀ p₁ : PointPair) : Prop :=
  QuarterFits p₀.source p₁.source ∧ QuarterFits p₀.target p₁.target ∧
    EdgeFits (pointDistanceQuarter p₀.source p₁.source) (pointDistanceQuarter p₀.target p₁.target)

/-- All four distances come first, and the transform only after both edges. -/
def ThirdFits (strict : Bool) (p₀ p₁ p₂ : PointPair) : Prop :=
  (QuarterFits p₀.source p₂.source ∧ QuarterFits p₀.target p₂.target ∧
    QuarterFits p₁.source p₂.source ∧ QuarterFits p₁.target p₂.target) ∧
  (orientationsAreCompatible strict p₀ p₁ p₂ = true →
    EdgeFits (pointDistanceQuarter p₀.source p₂.source)
      (pointDistanceQuarter p₀.target p₂.target) ∧
    (edgeIsCompatible p₀ p₂ = true →
      EdgeFits (pointDistanceQuarter p₁.source p₂.source)
        (pointDistanceQuarter p₁.target p₂.target) ∧
      (edgeIsCompatible p₁ p₂ = true →
        (∀ value ∈ affineValues p₀.source p₁.source p₂.source p₀.target p₁.target p₂.target,
          FitsIn 64 value) ∧
        RigidFits (linearPart (affineFromThreePoints p₀.source p₁.source p₂.source p₀.target
          p₁.target p₂.target)))))

instance (p₀ p₁ : PointPair) : Decidable (SecondFits p₀ p₁) := inferInstanceAs (Decidable (_ ∧ _))

instance (strict : Bool) (p₀ p₁ p₂ : PointPair) : Decidable (ThirdFits strict p₀ p₁ p₂) :=
  inferInstanceAs (Decidable (_ ∧ _))

/-- A quarter of the squared distance that can be multiplied by six. -/
def StoredEdge (a b : Point) : Prop := pointDistanceQuarter a b ≤ 357913941

def SecondRoom (p₀ p₁ : PointPair) : Prop := StoredEdge p₀.target p₁.target

/-- The stored points are close, and the trace of the transform has a square. -/
def ThirdRoom (strict : Bool) (p₀ p₁ p₂ : PointPair) : Prop :=
  (Close p₀.target p₂.target ∧ Close p₁.target p₂.target) ∧
  (orientationsAreCompatible strict p₀ p₁ p₂ = true →
    StoredEdge p₀.target p₂.target ∧
    (edgeIsCompatible p₀ p₂ = true →
      StoredEdge p₁.target p₂.target ∧
      (edgeIsCompatible p₁ p₂ = true →
        (linearPart (affineFromThreePoints p₀.source p₁.source p₂.source p₀.target p₁.target
          p₂.target)).trace ≤ 3037000499)))

instance (a b : Point) : Decidable (Close a b) := inferInstanceAs (Decidable (_ ∧ _))

instance (a b : Point) : Decidable (StoredEdge a b) := inferInstanceAs (Decidable (_ ≤ _))

instance (p₀ p₁ : PointPair) : Decidable (SecondRoom p₀ p₁) :=
  inferInstanceAs (Decidable (StoredEdge _ _))

instance (strict : Bool) (p₀ p₁ p₂ : PointPair) : Decidable (ThirdRoom strict p₀ p₁ p₂) :=
  inferInstanceAs (Decidable (_ ∧ _))

section Pairs

variable {a b : Point}

lemma Point.InSensor.word (inside : a.InSensor) : a.Word := by
  obtain ⟨⟨x, x'⟩, y, y'⟩ := inside
  unfold sensorLimitX at x'
  unfold sensorLimitY at y'
  exact ⟨⟨x, by omega⟩, y, by omega⟩

lemma close_of_inSensor (ha : a.InSensor) (hb : b.InSensor) : Close a b := by
  obtain ⟨⟨ax, ax'⟩, ay, ay'⟩ := ha
  obtain ⟨⟨bx, bx'⟩, by', by''⟩ := hb
  unfold sensorLimitX at ax' bx'
  unfold sensorLimitY at ay' by''
  exact ⟨abs_le.mpr ⟨by omega, by omega⟩, abs_le.mpr ⟨by omega, by omega⟩⟩

lemma pointDistanceQuarter_nonneg (a b : Point) : 0 ≤ pointDistanceQuarter a b := by
  have x := mul_self_nonneg (a.x - b.x)
  have y := mul_self_nonneg (a.y - b.y)
  unfold pointDistanceQuarter shiftRight
  dsimp only
  omega

lemma pointDistanceQuarter_inSensor (ha : a.InSensor) (hb : b.InSensor) :
    pointDistanceQuarter a b ≤ 171948032 := by
  obtain ⟨⟨ax, ax'⟩, ay, ay'⟩ := ha
  obtain ⟨⟨bx, bx'⟩, by', by''⟩ := hb
  unfold sensorLimitX at ax' bx'
  unfold sensorLimitY at ay' by''
  have x : |a.x - b.x| ≤ 20479 := abs_le.mpr ⟨by omega, by omega⟩
  have y : |a.y - b.y| ≤ 16383 := abs_le.mpr ⟨by omega, by omega⟩
  have xx := (abs_le.mp (abs_mul_le x x)).2
  have yy := (abs_le.mp (abs_mul_le y y)).2
  unfold pointDistanceQuarter shiftRight
  dsimp only
  omega

/-- Points whose distance can be multiplied are close. -/
lemma StoredEdge.close (edge : StoredEdge a b) : Close a b := by
  have x := mul_self_nonneg (a.x - b.x)
  have y := mul_self_nonneg (a.y - b.y)
  unfold StoredEdge pointDistanceQuarter shiftRight at edge
  dsimp only at edge
  exact ⟨abs_le_of_mul_self_lt (by omega), abs_le_of_mul_self_lt (by omega)⟩

lemma edgeFits_iff {sourceDistance targetDistance : Int} (low : 0 ≤ sourceDistance)
    (high : sourceDistance ≤ 171948032) (positive : 0 ≤ targetDistance) :
    EdgeFits sourceDistance targetDistance ↔ targetDistance ≤ 357913941 := by
  constructor
  · intro fits
    have six := (fits (targetDistance * 6) (by simp [edgeValues])).2
    norm_num at six
    omega
  · intro bounded value listed
    simp only [edgeValues, List.mem_append, List.mem_cons, List.not_mem_nil, or_false] at listed
    rcases listed with (rfl | rfl) | guarded
    · rw [fitsIn_32]
      omega
    · rw [fitsIn_32]
      omega
    · split at guarded
      · simp only [List.mem_cons, List.not_mem_nil, or_false] at guarded
        rcases guarded with rfl | rfl
        all_goals
          rw [fitsIn_32]
          omega
      · exact absurd guarded List.not_mem_nil

variable {p₀ p₁ p₂ : PointPair}

/-- A probe point inside the sensor and a stored one of 16 bits. -/
structure PointPair.Stored (pair : PointPair) : Prop where
  source : pair.source.InSensor
  target : pair.target.Word

lemma sourceFits (h₀ : p₀.Stored) (h₁ : p₁.Stored) : QuarterFits p₀.source p₁.source :=
  (quarterFits_iff h₀.source.word h₁.source.word).mpr (close_of_inSensor h₀.source h₁.source)

lemma targetFits_iff (h₀ : p₀.Stored) (h₁ : p₁.Stored) :
    QuarterFits p₀.target p₁.target ↔ Close p₀.target p₁.target :=
  quarterFits_iff h₀.target h₁.target

lemma storedEdge_iff (h₀ : p₀.Stored) (h₁ : p₁.Stored) :
    EdgeFits (pointDistanceQuarter p₀.source p₁.source)
      (pointDistanceQuarter p₀.target p₁.target) ↔ StoredEdge p₀.target p₁.target :=
  edgeFits_iff (pointDistanceQuarter_nonneg _ _)
    (pointDistanceQuarter_inSensor h₀.source h₁.source) (pointDistanceQuarter_nonneg _ _)

lemma secondFits_iff (h₀ : p₀.Stored) (h₁ : p₁.Stored) : SecondFits p₀ p₁ ↔ SecondRoom p₀ p₁ := by
  constructor
  · rintro ⟨-, -, edge⟩
    exact (storedEdge_iff h₀ h₁).mp edge
  · intro edge
    exact ⟨sourceFits h₀ h₁, (targetFits_iff h₀ h₁).mpr (StoredEdge.close edge),
      (storedEdge_iff h₀ h₁).mpr edge⟩

lemma thirdFits_iff (strict : Bool) (h₀ : p₀.Stored) (h₁ : p₁.Stored) (h₂ : p₂.Stored) :
    ThirdFits strict p₀ p₁ p₂ ↔ ThirdRoom strict p₀ p₁ p₂ := by
  have affine := affineValues_fit h₀.source.word h₁.source.word h₂.source.word h₀.target h₁.target
    h₂.target
  have rigid := rigidFits_iff (small_linearPart p₀.source p₁.source p₂.source p₀.target p₁.target
    p₂.target)
  unfold ThirdFits ThirdRoom
  refine and_congr ?_ (imp_congr_right fun _ => and_congr (storedEdge_iff h₀ h₂)
    (imp_congr_right fun _ => and_congr (storedEdge_iff h₁ h₂)
      (imp_congr_right fun _ => ?_)))
  · rw [targetFits_iff h₀ h₂, targetFits_iff h₁ h₂]
    have first := sourceFits h₀ h₂
    have later := sourceFits h₁ h₂
    constructor
    · rintro ⟨-, near, -, near'⟩
      exact ⟨near, near'⟩
    · rintro ⟨near, near'⟩
      exact ⟨first, near, later, near'⟩
  · exact (and_iff_right affine).trans rigid

end Pairs

/-! ### A match against one stored sub-template -/

def ordinaryCandidates (gallery probe : SubtemplateView) : List MatchCandidate :=
  if splitsAreValid gallery.records.length gallery.activeCount probe.records.length
      probe.activeCount then
    (candidateRows gallery.records gallery.activeCount probe.records probe.activeCount 23 47).map
      CandidateRow.candidate
  else []

/-- The probe looks for the gallery records. -/
def fallbackCandidates (gallery probe : SubtemplateView) : List MatchCandidate :=
  if splitsAreValid gallery.records.length gallery.activeCount probe.records.length
      probe.activeCount then
    columnCandidates (candidateRows gallery.records gallery.activeCount probe.records
      probe.activeCount 23 47) gallery.activeCount probe.records.length probe.activeCount
  else []

def ordinaryPoints (gallery probe : SubtemplateView) : List PointPair :=
  matchedPoints gallery.records probe.records (ordinaryCorrespondences gallery.records
    gallery.activeCount probe.records probe.activeCount)

def fallbackPoints (gallery probe : SubtemplateView) : List PointPair :=
  matchedPoints gallery.records probe.records (fallbackCorrespondences gallery.records
    gallery.activeCount probe.records probe.activeCount)

lemma selectCandidates_nil (newRecords : List FeatureRecord)
    (limit bestMultiplier secondMultiplier : Nat) :
    selectCandidates newRecords [] limit bestMultiplier secondMultiplier = [] := by
  unfold selectCandidates
  split
  · rfl
  · rfl

lemma ordinaryCorrespondences_eq (gallery probe : SubtemplateView) :
    ordinaryCorrespondences gallery.records gallery.activeCount probe.records probe.activeCount =
      selectCandidates probe.records (ordinaryCandidates gallery probe) matchPairLimit 40 38 := by
  unfold ordinaryCorrespondences ordinaryCorrespondencesWithGates ordinaryCandidates
  split
  · rfl
  · exact (selectCandidates_nil _ _ _ _).symm

lemma fallbackCorrespondences_eq (gallery probe : SubtemplateView) :
    fallbackCorrespondences gallery.records gallery.activeCount probe.records probe.activeCount =
      (selectCandidates gallery.records (fallbackCandidates gallery probe) matchPairLimit 40
        38).map fun pair => ⟨pair.newIndex, pair.oldIndex⟩ := by
  unfold fallbackCorrespondences fallbackCandidates
  split
  · rfl
  · rw [selectCandidates_nil, List.map_nil]

/-- Nothing that the ordinary match of a sub-template forms is out of range. -/
structure OrdinaryFits (gallery probe : SubtemplateView) : Prop where
  selection : SelectMeets SquaredFits probe.records (ordinaryCandidates gallery probe)
    matchPairLimit 40 38
  estimate : EstimateMeets SecondFits (ThirdFits true) (ordinaryPoints gallery probe) 3 true

structure FallbackFits (gallery probe : SubtemplateView) : Prop where
  selection : SelectMeets SquaredFits gallery.records (fallbackCandidates gallery probe)
    matchPairLimit 40 38
  estimate : EstimateMeets SecondFits (ThirdFits true) (fallbackPoints gallery probe) 4 true

/-- The stored points of the triples are close, and the transforms have a trace with a square. -/
def OrdinaryRoom (gallery probe : SubtemplateView) : Prop :=
  EstimateMeets SecondRoom (ThirdRoom true) (ordinaryPoints gallery probe) 3 true

/-- Here stored records are compared too. -/
structure FallbackRoom (gallery probe : SubtemplateView) : Prop where
  selection : SelectMeets (fun a b => squaredDistance a b < 2 ^ 31) gallery.records
    (fallbackCandidates gallery probe) matchPairLimit 40 38
  estimate : EstimateMeets SecondRoom (ThirdRoom true) (fallbackPoints gallery probe) 4 true

variable {gallery probe : SubtemplateView}

lemma not_ordinaryFits (fails : ¬EstimateMeets SecondFits (ThirdFits true)
    (ordinaryPoints gallery probe) 3 true) : ¬OrdinaryFits gallery probe :=
  fun fits => fails fits.estimate

lemma matchedPoints_stored (inside : ∀ record ∈ probe.records, record.point.InSensor)
    {pairs : List Correspondence} :
    ∀ pair ∈ matchedPoints gallery.records probe.records pairs, pair.Stored := by
  intro pair listed
  obtain ⟨correspondence, -, found⟩ := List.mem_filterMap.mp (List.mem_of_mem_take listed)
  split at found
  · rename_i stored live there here
    cases found
    exact ⟨inside live (List.mem_of_getElem? here), stored.point_word⟩
  · cases found

lemma squaredDistance_inSensor {a b : FeatureRecord} (ha : a.point.InSensor)
    (hb : b.point.InSensor) : squaredDistance a b < 2 ^ 31 := by
  obtain ⟨⟨ax, ax'⟩, ay, ay'⟩ := ha
  obtain ⟨⟨bx, bx'⟩, by', by''⟩ := hb
  unfold sensorLimitX FeatureRecord.point at ax' bx'
  unfold sensorLimitY FeatureRecord.point at ay' by''
  dsimp only at ax' ay' bx' by''
  have x : |(a.unsignedX : Int) - b.unsignedX| ≤ 20479 := abs_le.mpr ⟨by omega, by omega⟩
  have y : |(a.unsignedY : Int) - b.unsignedY| ≤ 16383 := abs_le.mpr ⟨by omega, by omega⟩
  have xx := (abs_le.mp (abs_mul_le x x)).2
  have yy := (abs_le.mp (abs_mul_le y y)).2
  unfold squaredDistance
  dsimp only
  omega

lemma selectMeets_of_forall {compared : FeatureRecord → FeatureRecord → Prop}
    {newRecords : List FeatureRecord} (all : ∀ a ∈ newRecords, ∀ b ∈ newRecords, compared a b)
    (candidates : List MatchCandidate) (limit bestMultiplier secondMultiplier : Nat) :
    SelectMeets compared newRecords candidates limit bestMultiplier secondMultiplier :=
  fun _ _ _ _ _ a b here there => all a (List.mem_of_getElem? here) b (List.mem_of_getElem? there)

/-- Only the test of the scale is left of the room between points of the sensor. -/
def TraceRoom (strict : Bool) (p₀ p₁ p₂ : PointPair) : Prop :=
  orientationsAreCompatible strict p₀ p₁ p₂ = true → edgeIsCompatible p₀ p₂ = true →
    edgeIsCompatible p₁ p₂ = true →
      (linearPart (affineFromThreePoints p₀.source p₁.source p₂.source p₀.target p₁.target
        p₂.target)).trace ≤ 3037000499

/-- Between stored points inside the sensor only the traces matter. -/
theorem estimateMeets_inSensor {pairs : List PointPair} {minimumInliers : Nat} {strict : Bool}
    (inside : ∀ pair ∈ pairs, pair.target.InSensor) :
    EstimateMeets SecondRoom (ThirdRoom strict) pairs minimumInliers strict ↔
      EstimateMeets (fun _ _ => True) (TraceRoom strict) pairs minimumInliers strict := by
  have edge : ∀ p ∈ pairs, ∀ q ∈ pairs, StoredEdge p.target q.target := fun p hp q hq =>
    (pointDistanceQuarter_inSensor (inside p hp) (inside q hq)).trans (by decide)
  refine estimateMeets_congr (fun p₀ h₀ p₁ h₁ => iff_true_intro (edge p₀ h₀ p₁ h₁))
    (fun p₀ h₀ p₁ h₁ p₂ h₂ => ?_)
  have close := And.intro (edge p₀ h₀ p₂ h₂).close (edge p₁ h₁ p₂ h₂).close
  unfold ThirdRoom TraceRoom
  refine (and_iff_right close).trans (imp_congr_right fun _ => ?_)
  refine (and_iff_right (edge p₀ h₀ p₂ h₂)).trans (imp_congr_right fun _ => ?_)
  exact and_iff_right (edge p₁ h₁ p₂ h₂)

lemma estimateFits_iff (inside : ∀ record ∈ probe.records, record.point.InSensor)
    (pairs : List Correspondence) (minimumInliers : Nat) :
    EstimateMeets SecondFits (ThirdFits true) (matchedPoints gallery.records probe.records pairs)
        minimumInliers true ↔
      EstimateMeets SecondRoom (ThirdRoom true) (matchedPoints gallery.records probe.records pairs)
        minimumInliers true := by
  have stored := @matchedPoints_stored gallery probe inside pairs
  exact estimateMeets_congr
    (fun p₀ h₀ p₁ h₁ => secondFits_iff (stored p₀ h₀) (stored p₁ h₁))
    (fun p₀ h₀ p₁ h₁ p₂ h₂ => thirdFits_iff true (stored p₀ h₀) (stored p₁ h₁) (stored p₂ h₂))

lemma ordinaryFits_iff (inside : ∀ record ∈ probe.records, record.point.InSensor) :
    OrdinaryFits gallery probe ↔ OrdinaryRoom gallery probe := by
  constructor
  · rintro ⟨-, estimate⟩
    exact (estimateFits_iff inside _ 3).mp estimate
  · intro room
    refine ⟨selectMeets_of_forall (fun a ha b hb => ?_) _ _ _ _,
      (estimateFits_iff inside _ 3).mpr room⟩
    exact (squaredFits_iff a b).mpr (squaredDistance_inSensor (inside a ha) (inside b hb))

lemma fallbackFits_iff (inside : ∀ record ∈ probe.records, record.point.InSensor) :
    FallbackFits gallery probe ↔ FallbackRoom gallery probe := by
  have selection := selectMeets_congr (fun a (_ : a ∈ gallery.records) b
    (_ : b ∈ gallery.records) => squaredFits_iff a b) (fallbackCandidates gallery probe)
    matchPairLimit 40 38
  constructor
  · rintro ⟨compared, estimate⟩
    exact ⟨selection.mp compared, (estimateFits_iff inside _ 4).mp estimate⟩
  · rintro ⟨compared, estimate⟩
    exact ⟨selection.mpr compared, (estimateFits_iff inside _ 4).mpr estimate⟩

/-! ### A match against a stored print -/

/-- What the second pass does not leave out. -/
def MatchScan.LooksBack (scan : MatchScan) (entry : Nat × SubtemplateView) : Prop :=
  scan.lateRejected.toList.getD entry.1 false = false ∧
    fallbackGalleryEnabledType24 (scan.records.toList.getD entry.1 .zero).geometryCount 0 1 = true

lemma MatchScan.consumeFallback_eq_self {scan : MatchScan} {entry : Nat × SubtemplateView}
    (left : ¬scan.LooksBack entry) (probe : SubtemplateView) (selectorThreshold : Int32)
    (aggregation : MatchAggregation) :
    scan.consumeFallback probe selectorThreshold aggregation entry = aggregation := by
  unfold MatchScan.consumeFallback
  cases rejected : scan.lateRejected.toList.getD entry.1 false with
  | true => simp only [Bool.true_or, if_true]
  | false =>
    have disabled : fallbackGalleryEnabledType24
        (scan.records.toList.getD entry.1 .zero).geometryCount 0 1 = false :=
      Bool.eq_false_iff.mpr fun enabled => left ⟨rejected, enabled⟩
    simp only [disabled, Bool.not_false, Bool.or_true, if_true]

/-- What `goodix_chicago_match_template_type24` meets with every sub-template that it scores, and
with every one that its second pass takes up if none is admitted. -/
def MatchMeets (ordinary fallback : SubtemplateView → Prop) (print : Enrollment)
    (probe : SubtemplateView) (selectorThreshold : Int32) : Prop :=
  print.count ≤ enrollmentCapacity → ∀ metricData, probe.metricData = some metricData →
    let scan := EarlyExit.run (matchCandidate probe selectorThreshold) print.schedule
      (.init metricData.packedResolution)
    EarlyExit.Throughout (matchCandidate probe selectorThreshold)
      (fun _ entry => entry.2.metricData.isSome → ordinary entry.2) print.schedule
      (.init metricData.packedResolution) ∧
    ∀ reached, scan = .next reached ∨ scan = .stop (some reached) →
      reached.aggregation.acceptedCount ≤ 0 →
        ∀ entry ∈ print.schedule, reached.LooksBack entry → fallback entry.2

lemma matchMeets_congr {ordinary ordinary' fallback fallback' : SubtemplateView → Prop}
    (first : ∀ gallery, ordinary gallery ↔ ordinary' gallery)
    (second : ∀ gallery, fallback gallery ↔ fallback' gallery) (print : Enrollment)
    (probe : SubtemplateView) (selectorThreshold : Int32) :
    MatchMeets ordinary fallback print probe selectorThreshold ↔
      MatchMeets ordinary' fallback' print probe selectorThreshold := by
  refine imp_congr_right fun _ => forall₂_congr fun metricData _ => and_congr ?_ ?_
  · exact EarlyExit.throughout_congr (fun _ entry _ => imp_congr_right fun _ => first entry.2) _
  · refine forall₃_congr fun reached _ _ => forall₃_congr fun entry _ _ => ?_
    exact second entry.2

lemma matchMeets_of_forall {ordinary fallback : SubtemplateView → Prop} {print : Enrollment}
    (first : ∀ entry ∈ print.schedule, ordinary entry.2)
    (second : ∀ entry ∈ print.schedule, fallback entry.2) (probe : SubtemplateView)
    (selectorThreshold : Int32) : MatchMeets ordinary fallback print probe selectorThreshold := by
  intro _ metricData _
  constructor
  · apply EarlyExit.throughout_of_forall
    intro _ entry listed _
    exact first entry listed
  · intro _ _ _ entry listed _
    exact second entry listed

/-- Nothing that a match against a stored print forms is out of range. -/
def MatchFits (print : Enrollment) (probe : SubtemplateView) (selectorThreshold : Int32) : Prop :=
  MatchMeets (fun gallery => OrdinaryFits gallery probe)
    (fun gallery => FallbackFits gallery probe) print probe selectorThreshold

def MatchRoom (print : Enrollment) (probe : SubtemplateView) (selectorThreshold : Int32) : Prop :=
  MatchMeets (fun gallery => OrdinaryRoom gallery probe)
    (fun gallery => FallbackRoom gallery probe) print probe selectorThreshold

/-- The first sub-template is always scored. -/
lemma MatchFits.first {print : Enrollment} {probe gallery : SubtemplateView}
    {selectorThreshold : Int32} {metricData : MetricData} {index : Nat}
    {rest : List (Nat × SubtemplateView)} (fits : MatchFits print probe selectorThreshold)
    (room : print.count ≤ enrollmentCapacity) (loaded : probe.metricData = some metricData)
    (first : print.schedule = (index, gallery) :: rest) (stored : gallery.metricData.isSome) :
    OrdinaryFits gallery probe := by
  have scored := (fits room metricData loaded).1
  rw [first] at scored
  exact scored.1 stored

/-- A match against a stored print keeps its signed arithmetic in range exactly if the stored
records that it compares are close and no triple that it tries has a transform with too large a
trace. -/
theorem match_fits_iff (print : Enrollment) (probe : SubtemplateView) (selectorThreshold : Int32)
    (inside : ∀ record ∈ probe.records, record.point.InSensor) :
    MatchFits print probe selectorThreshold ↔ MatchRoom print probe selectorThreshold :=
  matchMeets_congr (fun _ => ordinaryFits_iff inside) (fun _ => fallbackFits_iff inside) _ _ _

/-! ### Stored prints that do and do not -/

/-- A print with one sub-template. -/
def galleryOf (records : List FeatureRecord) : Enrollment :=
  { gridGallery with
    subtemplates := [.fresh records 0 80 90 (some gridMetricData) 0] }

def probeOf (records : List FeatureRecord) : SubtemplateView where
  activeCount := 0
  quality := 80
  coverage := 90
  records := records
  hasMetricData := true
  metricData := some gridMetricData
  densityPositivePercent := 0
  liveAuxiliary := Vector.replicate 6 0

/-- Three records at a right angle. -/
def cornerOfSpots : List FeatureRecord :=
  [spotRecord 0 0 0 0, spotRecord 0x400 0 0xff 0,
    { spotRecord 0 0xff 0 0 with refinedY := 0x400 }]

/-- Three records in a row. -/
def rowOfSpots (second third : Nat) : List FeatureRecord :=
  [spotRecord 0 0 0 0, spotRecord second 0 0xff 0, spotRecord third 0xff 0 0]

lemma rowOfSpots_length (second third : Nat) : (rowOfSpots second third).length = 3 := rfl

lemma galleryOf_packable {records : List FeatureRecord}
    (few : records.length ≤ subtemplateRecordLimit) : (galleryOf records).Packable where
  count := gridGallery_packable.count
  capacity := gridGallery_packable.capacity
  recordLimit := gridGallery_packable.recordLimit
  subtemplates subtemplate listed := by
    rw [List.mem_singleton.mp listed]
    exact ⟨rfl, few, Nat.zero_le _, (by decide : 0 < enrollmentCapacity)⟩
  relations := gridGallery_packable.relations
  scheduled := gridGallery_packable.scheduled

lemma galleryOf_loads {records : List FeatureRecord}
    (few : records.length ≤ subtemplateRecordLimit) :
    unpack (galleryOf records).packedTemplate = .ok (galleryOf records).reload :=
  (galleryOf_packable few).pack_unpack.2

def storedView (records : List FeatureRecord) : SubtemplateView :=
  (reloadSubtemplate (.fresh records 0 80 90 (some gridMetricData) 0)).view

lemma probeOf_metricData (records : List FeatureRecord) :
    (probeOf records).metricData = some gridMetricData := rfl

lemma galleryOf_count (records : List FeatureRecord) : (galleryOf records).reload.count = 1 := rfl

lemma galleryOf_schedule (records : List FeatureRecord) :
    (galleryOf records).reload.schedule = [(0, storedView records)] := by
  have count := galleryOf_count records
  have order : (galleryOf records).reload.matchOrder = gridGallery.reload.matchOrder := rfl
  have grid : gridGallery.reload.count = 1 := rfl
  have scheduled : gridGallery.reload.getMatchOrderIndex 0 = some 0 := rfl
  have first : (galleryOf records).reload.getMatchOrderIndex 0 = some 0 := by
    rw [← scheduled]
    simp only [Enrollment.getMatchOrderIndex, count, order, grid]
  have stored : (galleryOf records).reload.subtemplates =
      [reloadSubtemplate (.fresh records 0 80 90 (some gridMetricData) 0)] := rfl
  simp only [Enrollment.schedule, count, List.range_one, List.filterMap_cons,
    Enrollment.scheduledSubtemplate, first, Option.bind_some, stored, List.getElem?_cons_zero,
    Option.map_some, List.filterMap_nil, storedView]

theorem match_fits_corner :
    MatchFits (galleryOf cornerOfSpots).reload (probeOf cornerOfSpots) 0 := by
  refine (match_fits_iff _ _ _ (by decide +kernel)).mpr (matchMeets_of_forall ?_ ?_ _ _)
  · rw [galleryOf_schedule]
    intro entry listed
    rw [List.mem_singleton.mp listed]
    have estimate : EstimateMeets SecondRoom (ThirdRoom true)
        (ordinaryPoints (storedView cornerOfSpots) (probeOf cornerOfSpots)) 3 true := by
      decide +kernel
    exact estimate
  · rw [galleryOf_schedule]
    intro entry listed
    rw [List.mem_singleton.mp listed]
    exact ⟨selectMeets_of_forall (by decide +kernel) _ _ _ _, by decide +kernel⟩

/-- A stored row inside the sensor gives a transform whose trace has no square in 64 bits, and one
that leaves it distances without a square in 32. -/
theorem stored_rows_overflow :
    (∀ record ∈ (probeOf (rowOfSpots 0x400 0x800)).records, record.point.InSensor) ∧
    (∀ record ∈ rowOfSpots 0x400 0x800, record.point.InSensor) ∧
    ∀ second ∈ [0x400, 0xfff0], ∃ print,
      unpack (galleryOf (rowOfSpots second 0x800)).packedTemplate = .ok print ∧
        ¬MatchFits print (probeOf (rowOfSpots 0x400 0x800)) 0 := by
  have estimates : ∀ second ∈ [0x400, 0xfff0], ¬EstimateMeets SecondFits (ThirdFits true)
      (ordinaryPoints (storedView (rowOfSpots second 0x800)) (probeOf (rowOfSpots 0x400 0x800)))
      3 true := by
    decide +kernel
  refine ⟨by decide +kernel, by decide +kernel, fun second listed => ?_⟩
  have few : (rowOfSpots second 0x800).length ≤ subtemplateRecordLimit :=
    (rowOfSpots_length second 0x800).trans_le (by decide)
  have room : (galleryOf (rowOfSpots second 0x800)).reload.count ≤ enrollmentCapacity :=
    (galleryOf_count _).trans_le (by decide)
  refine ⟨_, galleryOf_loads few, fun fits => ?_⟩
  have misfit := not_ordinaryFits (estimates second listed)
  exact misfit (fits.first room (probeOf_metricData _) (galleryOf_schedule _) rfl)

end GoodixSpi.Chicago
