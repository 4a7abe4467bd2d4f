import GoodixSpi.Chicago.Enrollment.Insert
import GoodixSpi.Chicago.Enrollment.RelationMask

/-! Adaptive study: a matched live sample is appended to a gallery with room, or takes
the place of a sub-template of a full one. -/

namespace GoodixSpi.Chicago

/-- A sub-template as the matcher and study see it. The last two fields exist for live
samples only, the eight before them for stored sub-templates. -/
structure SubtemplateView where
  activeCount : Nat
  quality : UInt32
  coverage : UInt32
  records : List FeatureRecord
  hasMetricData : Bool
  metricData : Option MetricData
  groupState : UInt32 := 0
  relationBase : UInt32 := 0
  studyState : UInt32 := 0
  studyFlags : UInt32 := 0
  lineageIndex : Nat := 0
  replacementCount : UInt32 := 0
  studyValueA : UInt32 := 0
  studyValueB : UInt32 := 0
  densityPositivePercent : UInt32
  liveAuxiliary : Vector UInt8 6

namespace Enrollment

variable (self : Enrollment)

/-- The root with the largest component, the first of several. -/
def largestRoot (size : Nat → Nat) (count : Nat) : Option Nat × Nat :=
  (List.range count).foldl (fun best root =>
    if size root > best.2 then (some root, size root) else best) (none, 0)

/-- Clear every group flag, then mark the largest component of strong relations, if it
has two members at least. -/
def rebuildMatcherGroup : Enrollment :=
  let forest := self.forest
  let cleared := self.subtemplates.map fun subtemplate => { subtemplate with groupState := 0 }
  match largestRoot forest.size self.count with
  | (some root, _ + 2) =>
    { self with
      matcherValueC := 1
      groupAnchor := root
      hasGroupAnchor := true
      subtemplates := cleared.mapIdx fun index subtemplate =>
        if forest.component index = some root then
          { subtemplate with groupState := 1 }
        else subtemplate }
  | _ =>
    { self with
      matcherValueC := 0
      hasGroupAnchor := false
      subtemplates := cleared }

/-- What both study operations ask of the live sample. -/
def probeIsValid (probe : SubtemplateView) (relations : List Relation) : Bool :=
  relations.length == self.count && probe.hasMetricData && probe.metricData.isSome &&
    probe.records.length ≤ self.recordLimit && probe.activeCount ≤ probe.records.length

/-- `source->study_value_a++`. -/
def studySource (selectedIndex : Nat) : Enrollment :=
  { self with
    subtemplates := self.subtemplates.modify selectedIndex fun source =>
      { source with studyValueA := source.studyValueA + 1 } }

/-- The state before the group is rebuilt; `self` already counts the study. -/
def appendProbe (probe : SubtemplateView) (metricData : MetricData) (source : Subtemplate)
    (relations : List Relation) : Enrollment :=
  { self with
    subtemplates := self.subtemplates ++
      [{ Subtemplate.fresh probe.records probe.activeCount probe.quality probe.coverage
          (some metricData) self.count with
        groupState := source.groupState
        relationBase := UInt32.ofNat self.relations.length
        studyState := 1
        studyValueA := source.studyValueA
        studyValueB := source.studyValueB }]
    relations := self.relations ++ relations
    transformCount := self.relations.length + relations.length
    matchOrder := self.setMatchOrder self.count self.count }

def appendStudy (probe : SubtemplateView) (selectedIndex : Nat) (relations : List Relation) :
    Except GError (Enrollment × Nat) :=
  if self.count = 0 ∨ self.count ≥ self.capacity ∨ selectedIndex ≥ self.count then
    .error ⟨.notSupported, "gdix51c0: adaptive study requires available gallery state"⟩
  else if self.probeIsValid probe relations = false then
    .error ⟨.invalidArgument, "gdix51c0: invalid adaptive study subtemplate"⟩
  else
    let studied := self.studySource selectedIndex
    match studied.subtemplates[selectedIndex]?, probe.metricData with
    | some source, some metricData =>
      .ok ((studied.appendProbe probe metricData source relations).rebuildMatcherGroup, self.count)
    | _, _ => .error ⟨.invalidArgument, "gdix51c0: invalid adaptive study subtemplate"⟩

/-! ### Replacement -/

/-- The probe in an existing slot; the slot keeps its group state, its relation base
and its study flags. -/
def overwriteWith (probe : SubtemplateView) (metricData : MetricData) (source : Subtemplate)
    (replacement : Subtemplate) : Subtemplate :=
  { replacement with
    activeCount := probe.activeCount
    quality := probe.quality
    coverage := probe.coverage
    records := probe.records
    hasMetricData := true
    metricData := metricData
    studyState := 2
    replacementCount := replacement.replacementCount + 1
    studyValueA := source.studyValueA
    studyValueB := source.studyValueB }

/-- Later lineages move down by one; the replacement becomes the newest. -/
def renumberLineage (replacementIndex count : Nat) (subtemplates : List Subtemplate) :
    List Subtemplate :=
  subtemplates.mapIdx fun index subtemplate =>
    if index = replacementIndex then { subtemplate with lineageIndex := count - 1 }
    else if subtemplate.lineageIndex > 0 then
      { subtemplate with lineageIndex := subtemplate.lineageIndex - 1 }
    else subtemplate

/-- One entry of the table takes the probe's relation to `index`, or none when the slot
does not exist and the source dereferences `NULL`. -/
def replaceRelation (replacementIndex : Nat) (relations : List Relation)
    (table : Option (List Relation)) (index : Nat) : Option (List Relation) :=
  match table, relations[index]? with
  | some table, some relation =>
    if index = replacementIndex then some table
    else
      match self.relationBetweenSubtemplates (max index replacementIndex)
          (min index replacementIndex) with
      | none => none
      | some slot =>
        if index < replacementIndex then some (table.set slot relation)
        else some (table.set slot
          ⟨relation.inlierCount, invertGroupTransform relation.transform⟩)
  | _, _ => none

inductive ReplaceFailure
  | error (error : GError)
  | nullDereference
deriving DecidableEq

def replaceStudy (probe : SubtemplateView) (selectedIndex replacementIndex : Nat)
    (relations : List Relation) : Except ReplaceFailure Enrollment :=
  if self.count ≠ self.capacity ∨ selectedIndex ≥ self.count ∨ replacementIndex ≥ self.count ∨
      self.probeIsValid probe relations = false then
    .error (.error ⟨.invalidArgument,
      "gdix51c0: invalid capacity-full adaptive study replacement"⟩)
  else
    let studied := self.studySource selectedIndex
    match studied.subtemplates[selectedIndex]?, probe.metricData with
    | some source, some metricData =>
      match (List.range self.count).foldl (self.replaceRelation replacementIndex relations)
          (some self.relations) with
      | none => .error .nullDereference
      | some table =>
        .ok { studied with
          subtemplates := renumberLineage replacementIndex self.count
            (studied.subtemplates.modify replacementIndex
              (overwriteWith probe metricData source))
          relations := table
          matcherValueB := self.matcherValueB + 1 }
    | _, _ => .error .nullDereference

end Enrollment

end GoodixSpi.Chicago
