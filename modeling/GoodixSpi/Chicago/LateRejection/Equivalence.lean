import GoodixSpi.Chicago.LateRejection.Compat
import Mathlib.Order.Basic

/-! For template type 24 the policy and the literal translation agree, statement by
statement: every test on `param_3` falls on one side, and what is left of each nest of
conditions is the reason of the same rank in the policy. -/

namespace GoodixSpi.Chicago

section Nests

/-! The translation repeats an outer test inside its nest. -/

lemma and_or_and (a b c : Bool) : (a && (b || a && c)) = (a && (b || c)) := by
  cases a <;> simp

lemma or_and_or (a b c : Bool) : (a || (b && (a || c))) = (a || (b && c)) := by
  cases a <;> simp

lemma ite_of_opposite {p : Prop} [Decidable p] {b x y : Bool} (opposite : b = true ↔ ¬p)
    (same : x = y) : (if b = true then x else false) = if p then false else y := by
  subst same
  by_cases h : p
  · have closed : b = false := by simpa [h] using opposite
    simp [h, closed]
  · have opened : b = true := opposite.mpr h
    simp [h, opened]

/-- The jumps of `compatMaxAuxiliaryAbove4` around `LAB_18002cf9f`. -/
lemma weakRelation_jumps (above agree study small : Prop) [Decidable above] [Decidable agree]
    [Decidable study] [Decidable small] :
    (if above then
      if agree then if study then true else decide agree && decide small && decide study
      else false
    else decide agree && decide small && decide study) =
    (decide agree && decide study && (decide above || decide small)) := by
  by_cases above <;> by_cases agree <;> by_cases study <;> simp_all

/-- The jumps of `compatLowGeometry`, whatever the tests on the way are. -/
lemma lowGeometry_jumps (initial gate immediate history weak weak' : Bool)
    (above calm : Prop) [Decidable above] [Decidable calm] :
    (if gate = true then
      if immediate = true then true
      else if history = true then
        if above then
          if weak = true then true
          else if ¬above then if calm then initial else true
          else if weak' = true then true
          else if calm then initial else true
        else if calm then initial else true
      else true
    else true) =
    (initial || !(gate && !immediate && history && !(decide above && (weak || weak')) &&
      decide calm)) := by
  by_cases above <;> by_cases calm <;> revert initial gate immediate history weak weak' <;>
    simp_all

end Nests

variable (record : MatchScoreRecord)
  (overlapArea pixelCount probeQuality candidateAuxiliary maxAuxiliary rejectionCount : Int32)

/-- One call as the policy sees it. -/
abbrev policyView : Type24LateRejectionContext where
  pixelCount := pixelCount
  overlapAreaX100 := overlapArea * 100
  probeQuality := probeQuality
  record := record
  agreement := record.agreement
  studyMetric := record.studyMetric20
  metricSum := record.agreement + record.studyMetric20
  geometryCount := record.geometryCount
  recordProbeQuality := record.probeQuality
  selector := record.selector
  candidateAuxiliary := candidateAuxiliary
  maxAuxiliary := maxAuxiliary
  rejectionCount := rejectionCount

/-- The same call as the translation sees it. -/
abbrev compatView : CompatLocals where
  param2 := record.words
  param3 := 0x18
  param6 := rejectionCount
  iVar1 := record.studyMetric20
  iVar2 := probeQuality
  iVar3 := record.agreement
  iVar8 := overlapArea
  iVar12 := maxAuxiliary
  iVar14 := record.agreement + record.studyMetric20
  iVar17 := pixelCount
  iVar18 := candidateAuxiliary

lemma notType10 : ((0x18 : Int32) == 10) = false := by decide

lemma compatMaxAuxiliaryAbove4_type24 :
    compatMaxAuxiliaryAbove4 (compatView record overlapArea pixelCount probeQuality
      candidateAuxiliary maxAuxiliary rejectionCount) =
    type24RejectHighAuxiliaryPair (policyView record overlapArea pixelCount probeQuality
      candidateAuxiliary maxAuxiliary rejectionCount) := by
  have otherType : ((0x18 : Int32) != 10) = true := by decide
  simp only [compatMaxAuxiliaryAbove4, type24RejectHighAuxiliaryPair, type24OverlapAbove,
    type24OverlapAtLeast, notType10, otherType, Bool.false_and, Bool.and_false, Bool.true_or,
    Bool.or_true, Bool.and_true, if_true, reduceCtorEq, if_false, ← Int32.not_lt, ite_not,
    decide_not, Bool.not_not, gt_iff_lt, weakRelation_jumps]
  simp only [Bool.if_true_left, Bool.if_false_left, Bool.decide_eq_true, Bool.and_true]
  rfl

lemma compatMaxAuxiliaryAbove3_type24 :
    compatMaxAuxiliaryAbove3 (compatView record overlapArea pixelCount probeQuality
      candidateAuxiliary maxAuxiliary rejectionCount) =
    type24RejectAuxiliaryLevelFour (policyView record overlapArea pixelCount probeQuality
      candidateAuxiliary maxAuxiliary rejectionCount) := by
  simp only [compatMaxAuxiliaryAbove3, type24RejectAuxiliaryLevelFour, type24OverlapAbove,
    ← Int32.not_lt, ge_iff_le, gt_iff_lt, ite_not, Bool.and_assoc, Bool.or_assoc, and_or_and]
  rfl

lemma compatMaxAuxiliaryAbove2_type24 :
    compatMaxAuxiliaryAbove2 (compatView record overlapArea pixelCount probeQuality
      candidateAuxiliary maxAuxiliary rejectionCount) =
    type24RejectAuxiliaryLevelThree (policyView record overlapArea pixelCount probeQuality
      candidateAuxiliary maxAuxiliary rejectionCount) := by
  simp only [compatMaxAuxiliaryAbove2, type24RejectAuxiliaryLevelThree, type24OverlapAbove,
    ← Int32.not_lt, ge_iff_le, ← not_and_or, ite_not, Bool.and_eq_true, decide_eq_true_eq,
    Bool.and_assoc, Bool.or_assoc, and_or_and]
  rfl

lemma compatMaxAuxiliaryAbove1_type24 :
    compatMaxAuxiliaryAbove1 (compatView record overlapArea pixelCount probeQuality
      candidateAuxiliary maxAuxiliary rejectionCount) =
    type24RejectAuxiliaryLevelTwo (policyView record overlapArea pixelCount probeQuality
      candidateAuxiliary maxAuxiliary rejectionCount) := by
  simp only [compatMaxAuxiliaryAbove1, type24RejectAuxiliaryLevelTwo, type24OverlapAbove,
    notType10, Bool.false_and, Bool.and_false, Bool.or_false, Bool.false_or,
    ← Int32.not_lt, ge_iff_le, ← not_and_or, ite_not, Bool.and_eq_true, decide_eq_true_eq,
    Bool.and_assoc, Bool.or_assoc, and_or_and]
  rfl

lemma compatLowGeometryGate_type24 :
    compatLowGeometryGate (compatView record overlapArea pixelCount probeQuality
      candidateAuxiliary maxAuxiliary rejectionCount) =
    type24PassesLowGeometryOverlapGate (policyView record overlapArea pixelCount probeQuality
      candidateAuxiliary maxAuxiliary rejectionCount) := by
  simp only [compatLowGeometryGate, type24PassesLowGeometryOverlapGate, type24OverlapAbove,
    ← Int32.not_lt, gt_iff_lt, Bool.and_assoc, Bool.or_assoc, or_and_or, decide_not]
  rfl

lemma compatLowGeometry_type24 :
    (compatLowGeometry (compatView record overlapArea pixelCount probeQuality
      candidateAuxiliary maxAuxiliary rejectionCount)).1 =
    type24RejectLowGeometry (policyView record overlapArea pixelCount probeQuality
      candidateAuxiliary maxAuxiliary rejectionCount) := by
  have type24 : ((0x18 : Int32) == 0x18) = true := by decide
  simp only [compatLowGeometry, type24RejectLowGeometry, compatLowGeometryGate_type24,
    type24OverlapAbove, type24, Bool.true_or, if_true, ← Int32.not_lt, gt_iff_lt,
    apply_ite Prod.fst, decide_not, Bool.and_assoc, and_or_and]
  apply ite_of_opposite
  · simp only [Bool.and_eq_true, decide_eq_true_eq, ← not_and_or, not_not]
    rfl
  · simp only [← Bool.and_assoc]
    exact lowGeometry_jumps _ _ _ _ _ _ _ _

/-- Every way to `LAB_18002dcfb` restores `iVar7`. -/
lemma compatLowGeometry_iVar7 (locals : CompatLocals) :
    (compatLowGeometry locals).2 = locals.param2.get 0 := by
  simp only [compatLowGeometry, apply_ite Prod.snd, ite_self]
  rfl

lemma compatOverlapBands_type24 :
    compatOverlapBands (compatView record overlapArea pixelCount probeQuality
      candidateAuxiliary maxAuxiliary rejectionCount) =
    type24RejectOverlapBands (policyView record overlapArea pixelCount probeQuality
      candidateAuxiliary maxAuxiliary rejectionCount) := by
  simp only [compatOverlapBands, type24RejectOverlapBands, type24OverlapAbove,
    type24OverlapAtLeast, Bool.and_assoc, Bool.or_assoc, and_or_and]
  rfl

lemma compatCandidateAuxiliary_type24 :
    compatCandidateAuxiliary record.geometryCount (compatView record overlapArea pixelCount
      probeQuality candidateAuxiliary maxAuxiliary rejectionCount) =
    type24RejectCandidateAuxiliary (policyView record overlapArea pixelCount probeQuality
      candidateAuxiliary maxAuxiliary rejectionCount) := by
  simp only [compatCandidateAuxiliary, type24RejectCandidateAuxiliary, type24OverlapAbove,
    notType10, Bool.false_and, Bool.and_false, Bool.or_false]
  grind

lemma compatBaseline_type24 :
    compatBaseline (compatView record overlapArea pixelCount probeQuality
      candidateAuxiliary maxAuxiliary rejectionCount) =
    type24RejectBaselineWeakness (policyView record overlapArea pixelCount probeQuality
      candidateAuxiliary maxAuxiliary rejectionCount) := rfl

/-- The mask lets only types 7 and 23 through. -/
lemma compatOtherTypes_type24 :
    compatOtherTypes (compatView record overlapArea pixelCount probeQuality
      candidateAuxiliary maxAuxiliary rejectionCount) = false := by
  have masked : ((0x18 : Int32).toUInt32 - 7 &&& 0xffffffef == 0) = false := by decide
  simp only [compatOtherTypes, masked, Bool.false_and]

lemma compatClearsStatus_type24 :
    compatClearsStatus (compatView record overlapArea pixelCount probeQuality
      candidateAuxiliary maxAuxiliary rejectionCount) =
    type24ShouldClearStatus (policyView record overlapArea pixelCount probeQuality
      candidateAuxiliary maxAuxiliary rejectionCount) := rfl

lemma compatRejects_type24 (type10Tail : CompatLocals → Bool) :
    compatRejects type10Tail (compatView record overlapArea pixelCount probeQuality
      candidateAuxiliary maxAuxiliary rejectionCount) =
    type24Rejects (policyView record overlapArea pixelCount probeQuality candidateAuxiliary
      maxAuxiliary rejectionCount) := by
  have lastStatement : (if (compatView record overlapArea pixelCount probeQuality
      candidateAuxiliary maxAuxiliary rejectionCount).param3 != 10 then
        compatOtherTypes (compatView record overlapArea pixelCount probeQuality
          candidateAuxiliary maxAuxiliary rejectionCount)
      else type10Tail (compatView record overlapArea pixelCount probeQuality
        candidateAuxiliary maxAuxiliary rejectionCount)) = false := by
    rw [compatOtherTypes_type24]
    simp only [bne, notType10, Bool.not_false, if_true]
  have iVar7 : (compatView record overlapArea pixelCount probeQuality candidateAuxiliary
      maxAuxiliary rejectionCount).param2.get 0 = record.geometryCount := rfl
  unfold compatRejects type24Rejects
  rw [lastStatement, Bool.or_false, compatMaxAuxiliaryAbove4_type24,
    compatMaxAuxiliaryAbove3_type24, compatMaxAuxiliaryAbove2_type24,
    compatMaxAuxiliaryAbove1_type24, compatLowGeometry_type24, compatLowGeometry_iVar7, iVar7,
    compatOverlapBands_type24, compatCandidateAuxiliary_type24, compatBaseline_type24]

section Entry

lemma max_eq_ite_lt_left (a b : Int32) : max a b = if b < a then a else b := by
  show (if a ≤ b then b else a) = _
  simp only [← Int32.not_lt, ite_not]

lemma max_eq_ite_lt_right (a b : Int32) : max a b = if a < b then b else a := by
  show (if a ≤ b then b else a) = _
  rcases Int32.lt_or_le a b with h | h
  · rw [if_pos h, if_pos (Int32.le_of_lt h)]
  · rw [if_neg (Int32.not_lt.mpr h)]
    split
    · rename_i le
      exact Int32.le_antisymm h le
    · rfl

variable (width height currentAuxiliary combinedAuxiliary statusFlag : Int32)
  (transform : Transform)

/-- The head of both functions builds the same values. -/
lemma compatLocals_type24 :
    compatLocals (compatProbe width height probeQuality) record.words 0x18 transform
      #v[currentAuxiliary, candidateAuxiliary, combinedAuxiliary] rejectionCount =
    compatView record (max (transformOverlapAreaType24 width.toUInt32 height.toUInt32 transform)
      (transformOverlapAreaType24 width.toUInt32 height.toUInt32
        (invertTransformQ8Type24 transform))) (width * height) probeQuality candidateAuxiliary
      (max combinedAuxiliary currentAuxiliary) rejectionCount := by
  rw [max_eq_ite_lt_left, max_eq_ite_lt_right]
  rfl

/-- The policy for type 24 returns the verdict, the rejection count and the status flag of
the literal translation. -/
theorem policy_eq_compat (type10Tail : CompatLocals → Bool) :
    matchLateRejectionPolicyType24 width height probeQuality record transform currentAuxiliary
      candidateAuxiliary combinedAuxiliary rejectionCount statusFlag =
    matchLateRejectionPolicyCompat type10Tail (compatProbe width height probeQuality)
      record.words 0x18 transform #v[currentAuxiliary, candidateAuxiliary, combinedAuxiliary]
      rejectionCount statusFlag := by
  unfold matchLateRejectionPolicyCompat
  rw [compatLocals_type24]
  simp only [compatRejects_type24, compatClearsStatus_type24]
  rfl

end Entry

end GoodixSpi.Chicago
