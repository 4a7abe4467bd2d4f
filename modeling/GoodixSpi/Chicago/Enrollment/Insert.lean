import GoodixSpi.Chicago.Enrollment.Relation

/-! Inserting a sample, and dropping the last one. -/

namespace GoodixSpi.Chicago

def firstPositionDetail : UInt32 := 0x64000064

structure EnrollmentResult where
  packedPositionDetail : UInt32
  progress : Nat
  positionX : UInt32
  positionY : UInt32
deriving DecidableEq

/-- The arguments of an insertion. -/
structure Sample where
  records : List FeatureRecord
  activeCount : Nat
  quality : UInt32
  coverage : UInt32
  metricData : Option MetricData

def EnrollmentResult.of (detail : UInt32) (count requiredSamples : Nat) : EnrollmentResult where
  packedPositionDetail := detail
  progress := min 100 (count * 100 / requiredSamples)
  positionX := (100 : UInt32) - (detail >>> 24)
  positionY := (100 : UInt32) - (detail &&& 0xff)

/-- The relation of a sample that matches nothing. -/
def sentinelRelation : Relation := ⟨-1, identityGroupTransform⟩

/-- A fresh sub-template; what is not given starts at zero. -/
def Subtemplate.fresh (records : List FeatureRecord) (activeCount : Nat)
    (quality coverage : UInt32) (metricData : Option MetricData) (lineageIndex : Nat) :
    Subtemplate where
  activeCount := activeCount
  quality := quality
  coverage := coverage
  records := records
  hasMetricData := metricData.isSome
  metricData := metricData.getD .zero
  groupState := 0
  relationBase := 0
  studyState := 0
  studyFlags := 0
  lineageIndex := lineageIndex
  replacementCount := 0
  studyValueA := 0
  studyValueB := 0

namespace Enrollment

variable (self : Enrollment)

def insertFirst (sample : Sample) : Except GError (Enrollment × EnrollmentResult) :=
  if self.count ≠ 0 then
    .error ⟨.exists, "gdix51c0: Chicago first subtemplate is already present"⟩
  else if sample.records.length > self.recordLimit ∨
      sample.activeCount > sample.records.length then
    .error ⟨.invalidArgument, "gdix51c0: invalid Chicago subtemplate counts " ++
      toString sample.activeCount ++ "/" ++ toString sample.records.length⟩
  else
    .ok ({ self with
      subtemplates := self.subtemplates ++ [.fresh sample.records sample.activeCount
        sample.quality sample.coverage sample.metricData self.count]
      matchOrder := self.setMatchOrder 0 0
      relations := self.relations ++ [sentinelRelation]
      transformCount := self.transformCount + 1 },
      .of firstPositionDetail (self.count + 1) self.requiredSamples)

/-! ### Later insertions -/

/-- What insertion learns about one sub-template that is already there. -/
structure Comparison where
  relation : Relation
  evidence : Bool

def compare (sample : Sample) (metricData : MetricData) (old : Subtemplate) : Comparison :=
  let built := buildRelation old.records old.metricData sample.records metricData
  { relation := if built.relation.inlierCount.toInt < 6 then sentinelRelation else built.relation
    evidence := built.evidenceAccepted }

def hasGroup : Bool := self.subtemplates.any fun subtemplate => subtemplate.groupState == 1

/-- The best accepted comparison so far. -/
structure Candidate where
  index : Nat
  inliers : Int
  selectorScore : Int

def considerCandidate (hasGroup : Bool) (metricData : MetricData) (best : Option Candidate)
    (entry : (Comparison × Subtemplate) × Nat) : Option Candidate :=
  let comparison := entry.1.1
  let old := entry.1.2
  if !comparison.evidence || comparison.relation.inlierCount.toInt < 6 ||
      (hasGroup && old.groupState != 1) then best
  else
    let improved : Bool := match best with
      | none => true
      | some candidate => comparison.relation.inlierCount.toInt > candidate.inliers
    if improved then
      some ⟨entry.2, comparison.relation.inlierCount.toInt,
        (calculateConfig1Metrics metricData old.metricData
          comparison.relation.transform).selectorScore⟩
    else best

def findCandidate (metricData : MetricData) (comparisons : List Comparison) : Option Candidate :=
  ((comparisons.zip self.subtemplates).zipIdx).foldl
    (considerCandidate self.hasGroup metricData) none

/-- Old missing relations that the new sample bridges become synthetic ones. -/
def synthesizeOne (current : Nat) (relations : List Relation) (pair : Nat × Nat) :
    List Relation :=
  let slot := self.relationIndex pair.1 pair.2
  match relations[slot]?, relations[self.relationIndex current pair.2]?,
      relations[self.relationIndex current pair.1]? with
  | some existing, some currentToOlder, some currentToNewer =>
    if existing.inlierCount.toInt ≥ 0 ∨ currentToOlder.inlierCount.toInt < 0 ∨
        currentToNewer.inlierCount.toInt < 0 then relations
    else
      relations.set slot ⟨0, composeGroupTransform currentToOlder.transform
        (invertGroupTransform currentToNewer.transform)⟩
  | _, _, _ => relations

/-- The pairs `newer`, `older` below a bound, in the order of the two loops. -/
def pairsBelow (bound : Nat) : List (Nat × Nat) :=
  (List.range' 1 (bound - 1)).flatMap fun newer =>
    (List.range newer).map fun older => (newer, older)

def synthesizeFirstGroupRelations (current : Nat) : Enrollment :=
  { self with relations := (pairsBelow current).foldl (self.synthesizeOne current) self.relations }

/-- The transform from the new sample to the anchor, through the candidate. -/
def currentToAnchor (current candidate : Nat) : Transform :=
  let currentToCandidate := self.groupTransformBetween current candidate
  if candidate = self.groupAnchor then currentToCandidate
  else composeGroupTransform (self.groupTransformBetween candidate self.groupAnchor)
    currentToCandidate

/-- Join the existing group: the slot of the anchor takes the canonical transform. A
slot past the end of the table stands for a write outside it and changes nothing here. -/
def joinGroup (current candidate : Nat) : Enrollment :=
  let slot := self.relationIndex current self.groupAnchor
  let transform := self.currentToAnchor current candidate
  { self with
    relations := self.relations.modify slot fun relation =>
      { inlierCount :=
          if candidate ≠ self.groupAnchor ∧ relation.inlierCount.toInt < 0 then 0
          else relation.inlierCount
        transform }
    groupEdges := self.groupEdges ++ [slot] }

/-- The edges of the samples whose evidence was accepted. -/
def acceptedEdges (base : Nat) (comparisons : List Comparison) : List Nat :=
  comparisons.zipIdx.filterMap fun entry =>
    if entry.1.evidence then some (base + entry.2) else none

/-- Is pixel `(x, y)` of the new sample inside some other member of the group? -/
def coveredByGroup (current : Nat) (currentToAnchor : Transform) (x y : Nat) : Bool :=
  (List.range self.count).any fun index =>
    index != current && self.groupState index == 1 &&
      (let transform := composeGroupTransform
          (self.groupTransformBetween self.groupAnchor index) currentToAnchor
       let mappedX := (transform.get 0).toInt * x + (transform.get 1).toInt * y +
         CArithmetic.shiftRight (transform.get 2).toInt 1
       let mappedY := (transform.get 3).toInt * x + (transform.get 4).toInt * y +
         CArithmetic.shiftRight (transform.get 5).toInt 1
       0 ≤ mappedX && mappedX ≤ 39 * 0x100 && 0 ≤ mappedY && mappedY ≤ 31 * 0x100)

def positionMapUncoveredByGroup (positionMap : MetricMap) (current : Nat)
    (currentToAnchor : Transform) : Nat :=
  let uncovered := (List.range metricMapPixels).countP fun bit =>
    bitAt positionMap bit && !self.coveredByGroup current currentToAnchor (bit % 40) (bit / 40)
  if uncovered < 20 then 0 else uncovered

/-- The position detail of a later insertion; `self` is the state after it. -/
def positionDetail (positionMap : MetricMap) (comparisons : List Comparison) (current : Nat)
    (currentToAnchor : Transform) : UInt32 :=
  let hasPositionLoss := self.groupState current == 1 && self.hasGroupAnchor
  let positionLoss := if hasPositionLoss then
      self.positionMapUncoveredByGroup positionMap current currentToAnchor * 4
    else 80 * 64
  let lossDetail := UInt32.ofNat (positionLoss * 100 / (80 * 64 + 1))
  match comparisons.getLast? with
  | some last =>
    if last.relation.inlierCount.toInt ≥ 6 then
      let overlap := affineRectangleOverlap last.relation.transform 80 64 false
      let penalty := (80 * 64 - overlap) * 100 / (80 * 64 + 1)
      ((UInt32.ofNat penalty <<< 24) ||| 0x100) + lossDetail
    else if hasPositionLoss then ((firstPositionDetail &&& 0xff000000) ||| 0x100) + lossDetail
    else firstPositionDetail
  | none => firstPositionDetail

/-- The new sub-template and its block of relations, before the group is touched. -/
def appendSample (sample : Sample) (metricData : MetricData) (groupState : UInt32)
    (relations : List Relation) : Enrollment :=
  { self with
    subtemplates := self.subtemplates ++
      [{ Subtemplate.fresh sample.records sample.activeCount sample.quality sample.coverage
          (some metricData) self.count with
        relationBase := UInt32.ofNat self.relations.length
        groupState }]
    matchOrder := self.setMatchOrder self.count self.count
    relations := self.relations ++ relations
    transformCount := self.relations.length + relations.length }

/-- Every old sub-template enters the first group. -/
def openGroup (candidate : Nat) : Enrollment :=
  { self with
    groupAnchor := candidate
    hasGroupAnchor := true
    subtemplates := self.subtemplates.map fun subtemplate => { subtemplate with groupState := 1 } }

/-- What an accepted insertion does to the enrollment. -/
def insertCompared (sample : Sample) (metricData : MetricData) (comparisons : List Comparison) :
    Enrollment :=
  let relations := comparisons.map Comparison.relation
  match self.findCandidate metricData comparisons with
  | none => self.appendSample sample metricData 0 relations
  | some candidate =>
    if self.hasGroup then
      (self.appendSample sample metricData 1 relations).joinGroup self.count candidate.index
    else if candidate.selectorScore > 205 then
      let opened := ((self.openGroup candidate.index).appendSample sample metricData 1
        relations).synthesizeFirstGroupRelations self.count
      { opened with
        groupEdges := opened.groupEdges ++ acceptedEdges self.relations.length comparisons }
    else self.appendSample sample metricData 0 relations

def insertNext (sample : Sample) : Except GError (Enrollment × EnrollmentResult) :=
  if self.count = 0 ∨ self.count ≥ self.capacity then
    .error ⟨.notSupported, "gdix51c0: later insertion requires available enrollment state"⟩
  else
    match sample.metricData with
    | none => .error ⟨.invalidArgument, "gdix51c0: invalid Chicago second subtemplate"⟩
    | some metricData =>
      if sample.records.length > self.recordLimit ∨
          sample.activeCount > sample.records.length then
        .error ⟨.invalidArgument, "gdix51c0: invalid Chicago second subtemplate"⟩
      else if self.subtemplates.any fun old => !old.hasMetricData then
        .error ⟨.invalidData, "gdix51c0: existing subtemplate has no metric data"⟩
      else
        let comparisons := self.subtemplates.map (compare sample metricData)
        let inserted := self.insertCompared sample metricData comparisons
        let candidate := ((self.findCandidate metricData comparisons).map Candidate.index).getD 0
        -- In a group the transform is taken before the anchor slot is rewritten.
        let located := if self.hasGroup then
            self.appendSample sample metricData 1 (comparisons.map Comparison.relation)
          else inserted
        .ok (inserted, .of (inserted.positionDetail metricData.positionMap comparisons self.count
          (located.currentToAnchor self.count candidate)) (self.count + 1) self.requiredSamples)

def insertSecond (sample : Sample) : Except GError (Enrollment × EnrollmentResult) :=
  if self.count ≠ 1 then
    .error ⟨.notSupported, "gdix51c0: second insertion requires exactly one subtemplate"⟩
  else self.insertNext sample

/-! ### Dropping the last sample -/

/-- `self->match_order` without one value, closed up, and one marker at the end. -/
def dropOrder (last : Nat) : MatchOrder :=
  let visited := self.matchOrder.toList.take (last + 1)
  let kept := visited.filter (· != UInt32.ofNat last)
  Vector.ofFn fun schedule =>
    if schedule.val = last then maxUInt32
    else if schedule.val < kept.length then kept.getD schedule maxUInt32
    else self.orderAt schedule

/-- Edges are taken off the end until one lies below the dropped block. -/
def dropEdges (relationBase : Nat) (edges : List Nat) : List Nat :=
  (edges.reverse.dropWhile (relationBase ≤ ·)).reverse

/-- `g_array_set_size`. Entries past the old end are indeterminate in the source. -/
def resizeRelations (size : Nat) : List Relation :=
  self.relations.take size ++
    List.replicate (size - self.relations.length) ⟨0, Vector.replicate 6 0⟩

def dropLast : Except GError Enrollment :=
  match self.subtemplates.getLast? with
  | none => .error ⟨.invalidData, "gdix51c0: cannot drop from an empty Chicago enrollment"⟩
  | some last =>
    let relationBase := last.relationBase.toNat
    let emptied : Bool := self.count == 1
    .ok { self with
      relations := self.resizeRelations relationBase
      groupEdges := dropEdges relationBase self.groupEdges
      subtemplates := self.subtemplates.dropLast
      matchOrder := self.dropOrder (self.count - 1)
      transformCount := (self.resizeRelations relationBase).length
      groupAnchor := if emptied then 0 else self.groupAnchor
      hasGroupAnchor := if emptied then false else self.hasGroupAnchor }

end Enrollment

end GoodixSpi.Chicago
