import GoodixSpi.Chicago.Feature.Record

/-! The enrollment: sub-templates, a triangular table of relations between them, the
edges that joined samples to the group, and the order in which the matcher visits
sub-templates. -/

namespace GoodixSpi.Chicago

abbrev enrollmentRequiredSamples : Nat := 8
abbrev enrollmentCapacity : Nat := 50
abbrev subtemplateRecordLimit : Nat := 120
abbrev metricMapPackedBytes : Nat := 160
abbrev metricMaskPackedBytes : Nat := 40

/-- `G_MAXUINT32`, the empty marker of the match order. -/
def maxUInt32 : UInt32 := 0xffffffff

abbrev MetricMap := Vector UInt8 metricMapPackedBytes
abbrev MetricMask := Vector UInt8 metricMaskPackedBytes

structure MetricData where
  primary : MetricMap
  secondary : MetricMap
  validity : MetricMap
  coarseMask : MetricMask
  positionMap : MetricMap
  packedResolution : UInt32
deriving DecidableEq

abbrev Transform := Vector Int32 6

instance (priority := 2000) Transform.neZero : NeZero 6 := ⟨by decide⟩

structure Relation where
  inlierCount : Int32
  transform : Transform
deriving DecidableEq

def identityGroupTransform : Transform := #v[0x100, 0, 0, 0, 0x100, 0]

/-- `record_count` is the length of `records`. -/
structure Subtemplate where
  activeCount : Nat
  quality : UInt32
  coverage : UInt32
  records : List FeatureRecord
  hasMetricData : Bool
  metricData : MetricData
  groupState : UInt32
  relationBase : UInt32
  studyState : UInt32
  studyFlags : UInt32
  lineageIndex : Nat
  replacementCount : UInt32
  studyValueA : UInt32
  studyValueB : UInt32
deriving DecidableEq

abbrev MatchOrder := Vector UInt32 enrollmentCapacity

structure Enrollment where
  requiredSamples : Nat
  capacity : Nat
  recordLimit : Nat
  subtemplates : List Subtemplate
  relations : List Relation
  groupEdges : List Nat
  transformCount : Nat
  groupAnchor : Nat
  hasGroupAnchor : Bool
  matchOrder : MatchOrder
  matcherActiveIndex : UInt32
  matcherValueA : UInt32
  matcherValueB : UInt32
  matcherValueC : UInt32
  matcherValueD : UInt32
deriving DecidableEq

inductive ErrorCode
  | exists
  | invalidArgument
  | invalidData
  | notSupported
deriving DecidableEq, Repr

structure GError where
  code : ErrorCode
  message : String
deriving DecidableEq, Repr

namespace Enrollment

def new : Enrollment where
  requiredSamples := enrollmentRequiredSamples
  capacity := enrollmentCapacity
  recordLimit := subtemplateRecordLimit
  subtemplates := []
  relations := []
  groupEdges := []
  transformCount := 0
  groupAnchor := 0
  hasGroupAnchor := false
  matchOrder := Vector.replicate enrollmentCapacity maxUInt32
  matcherActiveIndex := maxUInt32
  matcherValueA := 0
  matcherValueB := 0
  matcherValueC := 0
  matcherValueD := 0

variable (self : Enrollment)

/-- `get_count`. -/
def count : Nat := self.subtemplates.length

def relationBase (index : Nat) : UInt32 :=
  (self.subtemplates[index]?.map Subtemplate.relationBase).getD 0

def groupState (index : Nat) : UInt32 :=
  (self.subtemplates[index]?.map Subtemplate.groupState).getD 0

/-- `subtemplate->relation_base + older`, a `guint` sum. -/
def relationIndex (newer older : Nat) : Nat :=
  (self.relationBase newer + UInt32.ofNat older).toNat

/-- The slot behind the pointer the source returns, or none for `NULL`. -/
def relationBetweenSubtemplates (newer older : Nat) : Option Nat :=
  if newer > older ∧ self.relationIndex newer older < self.relations.length then
    some (self.relationIndex newer older)
  else none

/-- The relation of two sub-templates in either order. -/
def relationOf (a b : Nat) : Option Relation :=
  (self.relationBetweenSubtemplates (max a b) (min a b)).bind fun slot => self.relations[slot]?

def orderAt (schedule : Nat) : UInt32 := self.matchOrder.toList.getD schedule maxUInt32

/-- `match_order[index] = value`. -/
def setMatchOrder (index value : Nat) : MatchOrder :=
  self.matchOrder.setIfInBounds index (UInt32.ofNat value)

def getMatchOrderIndex (schedule : Nat) : Option Nat :=
  if h : schedule < enrollmentCapacity then
    if schedule ≥ self.count ∨ (self.matchOrder[schedule]).toNat ≥ self.count then none
    else some (self.matchOrder[schedule]).toNat
  else none

end Enrollment

end GoodixSpi.Chicago
