import GoodixSpi.Chicago.LateRejection.Policy
import GoodixSpi.Lib.MonotoneBool

/-! The late-rejection policy on candidates with less and with more evidence. The contexts are
ordered by what they say for the candidate; each of the eight reasons to reject is antitone. -/

namespace GoodixSpi.Chicago

open MonotoneBool

instance preorderInt32 : Preorder Int32 where
  le_refl := Int32.le_refl
  le_trans _ _ _ := Int32.le_trans
  lt_iff_le_not_ge a b := by
    constructor
    · intro less
      exact ⟨Int32.le_of_lt less, Int32.not_le.mpr less⟩
    · rintro ⟨-, not⟩
      exact Int32.not_le.mp not

/-- `weak` says no more for its candidate than `strong`: lower values of the record, more overlap
and more rejections before it. -/
structure Type24LateRejectionContext.Weaker (weak strong : Type24LateRejectionContext) : Prop where
  pixelCount : weak.pixelCount = strong.pixelCount
  overlapAreaX100 : strong.overlapAreaX100 ≤ weak.overlapAreaX100
  probeQuality : weak.probeQuality ≤ strong.probeQuality
  geometryPercent : weak.record.geometryPercent ≤ strong.record.geometryPercent
  agreement : weak.agreement ≤ strong.agreement
  studyMetric : weak.studyMetric ≤ strong.studyMetric
  studyMetricZero : strong.studyMetric = 0 → weak.studyMetric = 0
  metricSum : weak.metricSum ≤ strong.metricSum
  geometryCount : weak.geometryCount = strong.geometryCount
  recordProbeQuality : weak.recordProbeQuality ≤ strong.recordProbeQuality
  selector : weak.selector ≤ strong.selector
  candidateAuxiliary : weak.candidateAuxiliary = strong.candidateAuxiliary
  maxAuxiliary : weak.maxAuxiliary = strong.maxAuxiliary
  rejectionCount : strong.rejectionCount ≤ weak.rejectionCount

namespace Type24LateRejectionContext

instance : Preorder Type24LateRejectionContext where
  le := Weaker
  le_refl ctx :=
    ⟨rfl, le_rfl, le_rfl, le_rfl, le_rfl, le_rfl, id, le_rfl, rfl, le_rfl, le_rfl, rfl, rfl, le_rfl⟩
  le_trans a b c ab bc :=
    { pixelCount := ab.pixelCount.trans bc.pixelCount
      overlapAreaX100 := bc.overlapAreaX100.trans ab.overlapAreaX100
      probeQuality := ab.probeQuality.trans bc.probeQuality
      geometryPercent := ab.geometryPercent.trans bc.geometryPercent
      agreement := ab.agreement.trans bc.agreement
      studyMetric := ab.studyMetric.trans bc.studyMetric
      studyMetricZero := fun zero => ab.studyMetricZero (bc.studyMetricZero zero)
      metricSum := ab.metricSum.trans bc.metricSum
      geometryCount := ab.geometryCount.trans bc.geometryCount
      recordProbeQuality := ab.recordProbeQuality.trans bc.recordProbeQuality
      selector := ab.selector.trans bc.selector
      candidateAuxiliary := ab.candidateAuxiliary.trans bc.candidateAuxiliary
      maxAuxiliary := ab.maxAuxiliary.trans bc.maxAuxiliary
      rejectionCount := bc.rejectionCount.trans ab.rejectionCount }

end Type24LateRejectionContext

/-! ### The fields -/

section Fields

open Type24LateRejectionContext

lemma probeQuality_monotone : Monotone probeQuality := fun _ _ le => le.probeQuality

lemma geometryPercent_monotone :
    Monotone fun ctx : Type24LateRejectionContext => ctx.record.geometryPercent :=
  fun _ _ le => le.geometryPercent

lemma agreement_monotone : Monotone agreement := fun _ _ le => le.agreement

lemma studyMetric_monotone : Monotone studyMetric := fun _ _ le => le.studyMetric

lemma metricSum_monotone : Monotone metricSum := fun _ _ le => le.metricSum

lemma recordProbeQuality_monotone : Monotone recordProbeQuality :=
  fun _ _ le => le.recordProbeQuality

lemma selector_monotone : Monotone selector := fun _ _ le => le.selector

lemma rejectionCount_antitone : Antitone rejectionCount := fun _ _ le => le.rejectionCount

lemma geometryCount_monotone : Monotone geometryCount := fun _ _ le => le.geometryCount.le

lemma geometryCount_antitone : Antitone geometryCount := fun _ _ le => le.geometryCount.ge

lemma candidateAuxiliary_antitone : Antitone candidateAuxiliary :=
  fun _ _ le => le.candidateAuxiliary.ge

lemma overlapAbove_antitone (percent : Int32) :
    Antitone fun ctx => type24OverlapAbove ctx percent :=
  antitone_iff.mpr fun weak strong le holds => by
    unfold type24OverlapAbove at holds ⊢
    rw [le.pixelCount]
    exact decide_eq_true ((of_decide_eq_true holds).trans_le le.overlapAreaX100)

lemma overlapAtLeast_antitone (percent : Int32) :
    Antitone fun ctx => type24OverlapAtLeast ctx percent :=
  antitone_iff.mpr fun weak strong le holds => by
    unfold type24OverlapAtLeast at holds ⊢
    rw [le.pixelCount]
    exact decide_eq_true ((of_decide_eq_true holds).trans le.overlapAreaX100)

lemma studyMetric_zero_antitone :
    Antitone fun ctx : Type24LateRejectionContext => ctx.studyMetric == 0 :=
  antitone_iff.mpr fun _ _ le zero => beq_iff_eq.mpr (le.studyMetricZero (beq_iff_eq.mp zero))

lemma maxAuxiliary_one_antitone :
    Antitone fun ctx : Type24LateRejectionContext => ctx.maxAuxiliary == 1 :=
  antitone_iff.mpr fun _ _ le one => by rwa [le.maxAuxiliary]

end Fields

/-! ### The reasons

Each is a formula over the fields. Where the source returns early, the condition is one that only
arises with more evidence, or one that the order leaves as it is. -/

lemma rejectHighAuxiliaryPair_antitone : Antitone type24RejectHighAuxiliaryPair := by
  unfold type24RejectHighAuxiliaryPair
  refine unless_antitone (fun a b le low => le.maxAuxiliary ▸ low) ?_
  refine ite_antitone (fun a b le => by rw [le.candidateAuxiliary]) ?_ ?_
  · apply_rules [not_antitone, and_monotone, or_monotone, not_monotone, gt_monotone,
      agreement_monotone, studyMetric_monotone, overlapAbove_antitone, overlapAtLeast_antitone]
  · apply_rules [or_antitone, and_antitone, not_antitone, and_monotone, or_monotone, not_monotone,
      lt_antitone, lt_monotone, gt_monotone, agreement_monotone, studyMetric_monotone,
      overlapAbove_antitone, geometryCount_monotone, candidateAuxiliary_antitone]

lemma rejectAuxiliaryLevelFour_antitone : Antitone type24RejectAuxiliaryLevelFour := by
  unfold type24RejectAuxiliaryLevelFour
  refine unless_antitone (fun a b le low => le.maxAuxiliary ▸ low) ?_
  refine ite_antitone (fun a b le => by rw [le.candidateAuxiliary]) ?_ ?_
  · apply_rules [or_antitone, and_antitone, lt_antitone, gt_antitone, agreement_monotone,
      studyMetric_monotone, overlapAbove_antitone, rejectionCount_antitone]
  refine unless_antitone (fun a b le high => high.trans le.recordProbeQuality) ?_
  refine ite_antitone (fun a b le => by rw [le.geometryCount]) ?_ ?_
  · repeat' apply_rules [or_antitone, and_antitone, lt_antitone, gt_antitone, metricSum_monotone,
      studyMetric_monotone, geometryCount_monotone, geometryPercent_monotone,
      recordProbeQuality_monotone, overlapAbove_antitone, rejectionCount_antitone]
  · apply_rules [or_antitone, and_antitone, lt_antitone, metricSum_monotone, agreement_monotone,
      studyMetric_monotone, geometryPercent_monotone, probeQuality_monotone, selector_monotone,
      overlapAbove_antitone]

lemma rejectAuxiliaryLevelThree_antitone : Antitone type24RejectAuxiliaryLevelThree := by
  unfold type24RejectAuxiliaryLevelThree
  refine unless_antitone (fun a b le low => le.maxAuxiliary ▸ low) ?_
  refine ite_antitone (fun a b le => by rw [le.candidateAuxiliary]) ?_ ?_
  · apply_rules [and_antitone, lt_antitone, agreement_monotone, studyMetric_monotone,
      overlapAbove_antitone]
  refine unless_antitone (fun a b le => Or.imp (fun high => high.trans le.recordProbeQuality)
    fun high => high.trans le.selector) ?_
  refine ite_antitone (fun a b le => by rw [le.geometryCount]) ?_ ?_
  · apply_rules [or_antitone, and_antitone, lt_antitone, metricSum_monotone,
      geometryPercent_monotone, recordProbeQuality_monotone, overlapAbove_antitone]
  · apply_rules [and_antitone, lt_antitone, metricSum_monotone, geometryPercent_monotone,
      overlapAbove_antitone]

lemma rejectAuxiliaryLevelTwo_antitone : Antitone type24RejectAuxiliaryLevelTwo := by
  unfold type24RejectAuxiliaryLevelTwo
  refine unless_antitone (fun a b le low => le.maxAuxiliary ▸ low) ?_
  refine ite_antitone (fun a b le => by rw [le.candidateAuxiliary]) ?_ ?_
  · apply_rules [or_antitone, and_antitone, lt_antitone, agreement_monotone, studyMetric_monotone,
      geometryCount_monotone, geometryPercent_monotone, overlapAbove_antitone]
  refine unless_antitone (fun a b le => Or.imp (fun high => high.trans le.recordProbeQuality)
    fun high => high.trans le.selector) ?_
  refine ite_antitone (fun a b le => by rw [le.geometryCount]) ?_ ?_
  · apply_rules [or_antitone, and_antitone, lt_antitone, metricSum_monotone, studyMetric_monotone,
      geometryCount_monotone, geometryPercent_monotone, recordProbeQuality_monotone,
      overlapAbove_antitone]
  · apply_rules [or_antitone, and_antitone, lt_antitone, agreement_monotone, studyMetric_monotone,
      geometryPercent_monotone, probeQuality_monotone, selector_monotone, overlapAbove_antitone]

lemma passesLowGeometryOverlapGate_monotone : Monotone type24PassesLowGeometryOverlapGate := by
  unfold type24PassesLowGeometryOverlapGate
  repeat' apply_rules [and_monotone, or_monotone, not_monotone, gt_monotone, agreement_monotone,
    studyMetric_monotone, geometryPercent_monotone, probeQuality_monotone, selector_monotone,
    overlapAbove_antitone]

lemma rejectLowGeometry_antitone : Antitone type24RejectLowGeometry := by
  unfold type24RejectLowGeometry
  refine unless_antitone (fun a b le => Or.imp (fun high => le.geometryCount ▸ high) <|
    Or.imp (fun high => high.trans le.recordProbeQuality) fun high => high.trans le.selector) ?_
  repeat' apply_rules [passesLowGeometryOverlapGate_monotone, or_antitone, and_antitone,
    not_antitone, and_monotone, or_monotone, not_monotone, lt_antitone, lt_monotone, gt_monotone,
    agreement_monotone, studyMetric_monotone, geometryCount_monotone, geometryPercent_monotone,
    probeQuality_monotone, selector_monotone, overlapAbove_antitone, rejectionCount_antitone]

lemma rejectOverlapBands_antitone : Antitone type24RejectOverlapBands := by
  unfold type24RejectOverlapBands
  repeat' apply_rules [or_antitone, and_antitone, lt_antitone, agreement_monotone,
    studyMetric_monotone, metricSum_monotone, geometryPercent_monotone, probeQuality_monotone,
    selector_monotone, overlapAbove_antitone, overlapAtLeast_antitone, studyMetric_zero_antitone,
    maxAuxiliary_one_antitone]

lemma rejectCandidateAuxiliary_antitone : Antitone type24RejectCandidateAuxiliary := by
  unfold type24RejectCandidateAuxiliary
  refine unless_antitone (fun a b le low => le.candidateAuxiliary ▸ low) ?_
  apply_rules [or_antitone, and_antitone, lt_antitone, gt_antitone, agreement_monotone,
    studyMetric_monotone, geometryCount_monotone, candidateAuxiliary_antitone,
    overlapAbove_antitone]

lemma rejectBaselineWeakness_antitone : Antitone type24RejectBaselineWeakness := by
  unfold type24RejectBaselineWeakness
  repeat' apply_rules [or_antitone, and_antitone, lt_antitone, agreement_monotone,
    studyMetric_monotone, geometryPercent_monotone, probeQuality_monotone, selector_monotone,
    overlapAbove_antitone]

/-- Less evidence is never what saves a candidate. -/
theorem type24Rejects_antitone : Antitone type24Rejects := by
  unfold type24Rejects
  apply_rules [rejectHighAuxiliaryPair_antitone, rejectAuxiliaryLevelFour_antitone,
    rejectAuxiliaryLevelThree_antitone, rejectAuxiliaryLevelTwo_antitone,
    rejectLowGeometry_antitone, rejectOverlapBands_antitone, rejectCandidateAuxiliary_antitone,
    rejectBaselineWeakness_antitone, or_antitone]

/-! ### One call -/

/-- `weak` differs from `strong` by lower values only. -/
structure MatchScoreRecord.NoBetter (weak strong : MatchScoreRecord) : Prop where
  geometryCount : weak.geometryCount = strong.geometryCount
  agreement : 0 ≤ weak.agreement ∧ weak.agreement ≤ strong.agreement
  studyMetric20 : 0 ≤ weak.studyMetric20 ∧ weak.studyMetric20 ≤ strong.studyMetric20
  geometryPercent : weak.geometryPercent ≤ strong.geometryPercent
  selector : weak.selector ≤ strong.selector
  probeQuality : weak.probeQuality ≤ strong.probeQuality

/-- The sum of the two metrics is the `gint32` that the policy compares. -/
def MatchScoreRecord.MetricSumFits (record : MatchScoreRecord) : Prop :=
  record.agreement.toInt + record.studyMetric20.toInt < 2 ^ 31

lemma toInt_add_of_fits {a b : Int32} (ha : 0 ≤ a) (hb : 0 ≤ b)
    (fits : a.toInt + b.toInt < 2 ^ 31) : (a + b).toInt = a.toInt + b.toInt := by
  rw [Int32.le_iff_toInt_le] at ha hb
  have zero : (0 : Int32).toInt = 0 := rfl
  rw [Int32.toInt_add, Int.bmod_eq_of_le] <;> omega

lemma MatchScoreRecord.NoBetter.metricSum_le {weak strong : MatchScoreRecord}
    (noBetter : weak.NoBetter strong) (fits : strong.MetricSumFits) :
    weak.agreement + weak.studyMetric20 ≤ strong.agreement + strong.studyMetric20 := by
  obtain ⟨agreeNonneg, agree⟩ := noBetter.agreement
  obtain ⟨studyNonneg, study⟩ := noBetter.studyMetric20
  have agreeInt := Int32.le_iff_toInt_le.mp agree
  have studyInt := Int32.le_iff_toInt_le.mp study
  unfold MetricSumFits at fits
  rw [Int32.le_iff_toInt_le, toInt_add_of_fits agreeNonneg studyNonneg (by omega),
    toInt_add_of_fits (agreeNonneg.trans agree) (studyNonneg.trans study) fits]
  exact add_le_add agreeInt studyInt

/-! ### The overlap area -/

lemma int32_max_eq_ite (a b : Int32) : max a b = if a ≤ b then b else a := rfl

/-- A counter in `gint32` that is passed at most once a round. -/
lemma foldl_counter_bounds {α : Type} (step : Int32 → α → Int32) (gain : ℕ)
    (steps : ∀ (area : Int32) (a : α), 0 ≤ area.toInt → area.toInt + gain < 2 ^ 31 →
      area.toInt ≤ (step area a).toInt ∧ (step area a).toInt ≤ area.toInt + gain)
    (items : List α) (area : Int32) (nonneg : 0 ≤ area.toInt)
    (fits : area.toInt + items.length * gain < 2 ^ 31) :
    area.toInt ≤ (items.foldl step area).toInt ∧
      (items.foldl step area).toInt ≤ area.toInt + items.length * gain := by
  induction items generalizing area with
  | nil => simp
  | cons a items ih =>
    have room : (0 : ℤ) ≤ items.length * gain := by positivity
    rw [List.length_cons, Nat.cast_succ, add_one_mul] at fits
    obtain ⟨low, high⟩ := steps area a nonneg (by omega)
    obtain ⟨restLow, restHigh⟩ := ih (step area a) (nonneg.trans low) (by omega)
    rw [List.foldl_cons, List.length_cons, Nat.cast_succ, add_one_mul]
    exact ⟨low.trans restLow, by omega⟩

lemma overlapArea_bounds (width height : UInt32) (transform : Transform)
    (fits : (height.toNat : ℤ) * width.toNat < 2 ^ 31) :
    0 ≤ (transformOverlapAreaType24 width height transform).toInt ∧
      (transformOverlapAreaType24 width height transform).toInt ≤ height.toNat * width.toNat := by
  have pixel (y : ℕ) (area : Int32) (x : ℕ) (nonneg : 0 ≤ area.toInt)
      (room : area.toInt + (1 : ℕ) < 2 ^ 31) :
      area.toInt ≤ (if pixelStaysInside width height transform x y then area + 1 else area).toInt ∧
      (if pixelStaysInside width height transform x y then area + 1 else area).toInt ≤
        area.toInt + (1 : ℕ) := by
    have one : (1 : Int32).toInt = 1 := rfl
    split
    · rw [Int32.toInt_add, Int.bmod_eq_of_le] <;> omega
    · omega
  have row (area : Int32) (y : ℕ) (nonneg : 0 ≤ area.toInt)
      (room : area.toInt + width.toNat < 2 ^ 31) :=
    foldl_counter_bounds _ 1 (pixel y) (List.range width.toNat) area nonneg
      (by rw [List.length_range]; omega)
  have zero : (0 : Int32).toInt = 0 := rfl
  simp only [List.length_range, Nat.cast_one, mul_one] at row
  have all := foldl_counter_bounds _ width.toNat row (List.range height.toNat) 0 le_rfl
    (by rw [List.length_range]; omega)
  rw [List.length_range, zero, zero_add] at all
  exact all

/-- On a sensor whose hundredfold pixel count is a `gint32`, the policy orders two overlaps as
their areas. -/
lemma overlapAreaX100_le_of_le {width height : UInt32}
    (fits : (height.toNat : ℤ) * width.toNat * 100 < 2 ^ 31) {transform transform' : Transform}
    (area : bidirectionalOverlapAreaType24 width height transform ≤
      bidirectionalOverlapAreaType24 width height transform') :
    bidirectionalOverlapAreaType24 width height transform * 100 ≤
      bidirectionalOverlapAreaType24 width height transform' * 100 := by
  have bounds (transform : Transform) :
      0 ≤ (bidirectionalOverlapAreaType24 width height transform).toInt ∧
      (bidirectionalOverlapAreaType24 width height transform).toInt * 100 < 2 ^ 31 := by
    have forward := overlapArea_bounds width height transform (by omega)
    have backward := overlapArea_bounds width height (invertTransformQ8Type24 transform) (by omega)
    unfold bidirectionalOverlapAreaType24
    rw [int32_max_eq_ite]
    split <;> omega
  have hundred : (100 : Int32).toInt = 100 := rfl
  have scaled (transform : Transform) :
      (bidirectionalOverlapAreaType24 width height transform * 100).toInt =
        (bidirectionalOverlapAreaType24 width height transform).toInt * 100 := by
    have := bounds transform
    rw [Int32.toInt_mul, hundred, Int.bmod_eq_of_le] <;> omega
  rw [Int32.le_iff_toInt_le] at area ⊢
  rw [scaled, scaled]
  omega

section Call

variable (width height : Int32) (probeQuality probeQuality' : Int32)
  (record record' : MatchScoreRecord) (transform transform' : Transform)
  (currentAuxiliary candidateAuxiliary combinedAuxiliary rejectionCount rejectionCount' : Int32)

lemma context_le_of_noBetter (noBetter : record'.NoBetter record) (fits : record.MetricSumFits)
    (quality : probeQuality' ≤ probeQuality) :
    type24LateRejectionContext width height probeQuality' record' transform currentAuxiliary
        candidateAuxiliary combinedAuxiliary rejectionCount ≤
      type24LateRejectionContext width height probeQuality record transform currentAuxiliary
        candidateAuxiliary combinedAuxiliary rejectionCount where
  pixelCount := rfl
  overlapAreaX100 := le_rfl
  probeQuality := quality
  geometryPercent := noBetter.geometryPercent
  agreement := noBetter.agreement.2
  studyMetric := noBetter.studyMetric20.2
  studyMetricZero zero :=
    Int32.le_antisymm (noBetter.studyMetric20.2.trans zero.le) noBetter.studyMetric20.1
  metricSum := noBetter.metricSum_le fits
  geometryCount := noBetter.geometryCount
  recordProbeQuality := noBetter.probeQuality
  selector := noBetter.selector
  candidateAuxiliary := rfl
  maxAuxiliary := rfl
  rejectionCount := le_rfl

lemma context_le_of_overlap
    (area : bidirectionalOverlapAreaType24 width.toUInt32 height.toUInt32 transform * 100 ≤
      bidirectionalOverlapAreaType24 width.toUInt32 height.toUInt32 transform' * 100)
    (count : rejectionCount ≤ rejectionCount') :
    type24LateRejectionContext width height probeQuality record transform' currentAuxiliary
        candidateAuxiliary combinedAuxiliary rejectionCount' ≤
      type24LateRejectionContext width height probeQuality record transform currentAuxiliary
        candidateAuxiliary combinedAuxiliary rejectionCount where
  pixelCount := rfl
  overlapAreaX100 := area
  probeQuality := le_rfl
  geometryPercent := le_rfl
  agreement := le_rfl
  studyMetric := le_rfl
  studyMetricZero := id
  metricSum := le_rfl
  geometryCount := rfl
  recordProbeQuality := le_rfl
  selector := le_rfl
  candidateAuxiliary := rfl
  maxAuxiliary := rfl
  rejectionCount := count

end Call

lemma matchLateRejectionType24_rejected_iff {width height : UInt32} {probeQuality : Int32}
    {record : MatchScoreRecord} {transform : Transform} {currentAuxiliary candidateAuxiliary
      combinedAuxiliary rejectionCount statusFlag : Int32} :
    (matchLateRejectionType24 width height probeQuality record transform currentAuxiliary
      candidateAuxiliary combinedAuxiliary rejectionCount statusFlag).rejected = true ↔
    ((0 < width ∧ width ≤ 0x7fffffff) ∧ (0 < height ∧ height ≤ 0x7fffffff)) ∧
      type24Rejects (type24LateRejectionContext width.toInt32 height.toInt32 probeQuality record
        transform currentAuxiliary candidateAuxiliary combinedAuxiliary rejectionCount) = true := by
  unfold matchLateRejectionType24
  split
  · rename_i guarded
    exact (and_iff_right guarded).symm
  · rename_i refused
    simp [refused]

/-- A record that is no better than a rejected one is rejected too, and neither more overlap nor
more rejections before it bring a rejected record back. -/
theorem late_rejection_monotone (width height : UInt32) (probeQuality : Int32)
    (record : MatchScoreRecord) (transform : Transform) (currentAuxiliary candidateAuxiliary
      combinedAuxiliary rejectionCount statusFlag : Int32)
    (rejected : (matchLateRejectionType24 width height probeQuality record transform
      currentAuxiliary candidateAuxiliary combinedAuxiliary rejectionCount statusFlag).rejected =
      true) :
    (∀ (record' : MatchScoreRecord) (probeQuality' statusFlag' : Int32), record'.NoBetter record →
      record.MetricSumFits → probeQuality' ≤ probeQuality →
      (matchLateRejectionType24 width height probeQuality' record' transform currentAuxiliary
        candidateAuxiliary combinedAuxiliary rejectionCount statusFlag').rejected = true) ∧
    ∀ (transform' : Transform) (rejectionCount' statusFlag' : Int32),
      bidirectionalOverlapAreaType24 width height transform * 100 ≤
        bidirectionalOverlapAreaType24 width height transform' * 100 →
      rejectionCount ≤ rejectionCount' →
      (matchLateRejectionType24 width height probeQuality record transform' currentAuxiliary
        candidateAuxiliary combinedAuxiliary rejectionCount' statusFlag').rejected = true := by
  obtain ⟨guarded, rejects⟩ := matchLateRejectionType24_rejected_iff.mp rejected
  constructor
  · intro record' probeQuality' statusFlag' noBetter fits quality
    refine matchLateRejectionType24_rejected_iff.mpr ⟨guarded, ?_⟩
    exact antitone_iff.mp type24Rejects_antitone
      (context_le_of_noBetter _ _ _ _ _ _ _ _ _ _ _ noBetter fits quality) rejects
  · intro transform' rejectionCount' statusFlag' area count
    refine matchLateRejectionType24_rejected_iff.mpr ⟨guarded, ?_⟩
    exact antitone_iff.mp type24Rejects_antitone
      (context_le_of_overlap _ _ _ _ _ _ _ _ _ _ _ area count) rejects

/-- A candidate that a full overlap and one rejection fewer decide. -/
def weakCandidate (agreement studyMetric20 : Int32) : MatchScoreRecord where
  geometryCount := 0
  secondaryGeometryCount := 0
  reserved08 := #v[0, 0]
  selector := 250
  agreement := agreement
  studyMetric18 := 0
  studyMetric1c := 0
  studyMetric20 := studyMetric20
  normalizedCoverage := 0
  matchedPercent := 0
  geometryPercent := 100
  penaltyFlagA := 0
  penaltyFlagB := 0
  reserved38 := Vector.replicate 7 0
  probeQuality := 0
  probeCoverage := 0
  galleryQuality := 0
  galleryCoverage := 0
  auxiliaryScore := 0

theorem late_rejection_monotone_weakCandidate :
    (matchLateRejectionType24 1 1 0 (weakCandidate 199 200) #v[256, 0, 0, 0, 256, 0] 4 0 0 1
      0).rejected = true := by
  have rejected := late_rejection_monotone 1 1 0 (weakCandidate 200 200) #v[256, 0, 0, 0, 256, 0]
    4 0 0 1 0 (by decide)
  refine rejected.1 (weakCandidate 199 200) 0 0 ?_ ?_ (by decide)
  · exact ⟨by decide, by decide, by decide, by decide, by decide, by decide⟩
  · unfold MatchScoreRecord.MetricSumFits
    decide

/-- Where the sum of the two metrics leaves `gint32`, the better record is the rejected one. -/
theorem wrapped_metricSum_rejected :
    (weakCandidate 0x7ffffffe 1).NoBetter (weakCandidate 0x7fffffff 1) ∧
    (matchLateRejectionType24 1 1 0 (weakCandidate 0x7fffffff 1) #v[256, 0, 0, 0, 256, 0] 4 0 0 0
      0).rejected = true ∧
    (matchLateRejectionType24 1 1 0 (weakCandidate 0x7ffffffe 1) #v[256, 0, 0, 0, 256, 0] 4 0 0 0
      0).rejected = false := by
  exact ⟨⟨by decide, by decide, by decide, by decide, by decide, by decide⟩, by decide, by decide⟩

end GoodixSpi.Chicago
