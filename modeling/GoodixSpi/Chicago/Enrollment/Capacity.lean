import GoodixSpi.Chicago.Enrollment.Study
import GoodixSpi.Lib.Worklist

/-! The relation graph of a full gallery and one live probe. The probe is node `count`;
its relations stand in an array of their own, which may be absent. Two searches write
relations into the graph while they walk it. -/

namespace GoodixSpi.Chicago

open Worklist SearchForest

structure CapacityGraph where
  enrollment : Enrollment
  probeRelations : Option (List Relation)
deriving DecidableEq

/-- How a study of a full gallery ends early: `FALSE`, with what it had already written,
or a `NULL` that the source dereferences. -/
inductive CapacityStop
  | refused (left : CapacityGraph)
  | nullRelation
  | nullMetricData
deriving DecidableEq

namespace CapacityGraph

variable (self : CapacityGraph)

/-- `self->subtemplates->len`. -/
def count : Nat := self.enrollment.count

/-- `capacity_relation_load`: the transform from `second` to `first`, and its strength. -/
def load (first second : Nat) : Transform × Int32 :=
  let absent : Transform × Int32 := (identityGroupTransform, -1)
  if first = second then (identityGroupTransform, 0)
  else if first = self.count then
    match self.probeRelations.bind (·[second]?) with
    | none => absent
    | some relation => (invertGroupTransform relation.transform, relation.inlierCount)
  else if second = self.count then
    match self.probeRelations.bind (·[first]?) with
    | none => absent
    | some relation => (relation.transform, relation.inlierCount)
  else if first < second then
    match self.enrollment.relationOf first second with
    | none => absent
    | some relation => (relation.transform, relation.inlierCount)
  else
    match self.enrollment.relationOf first second with
    | none => absent
    | some relation => (invertGroupTransform relation.transform, relation.inlierCount)

def setRelation (slot : Nat) (relation : Relation) : CapacityGraph :=
  { self with
    enrollment := { self.enrollment with
      relations := self.enrollment.relations.set slot relation } }

def setProbeRelation (index : Nat) (relation : Relation) : CapacityGraph :=
  { self with probeRelations := self.probeRelations.map (·.set index relation) }

/-- `capacity_relation_store`; none when the gallery slot does not exist and the source
writes through `NULL`. -/
def store (first second : Nat) (transform : Transform) (strength : Int32) :
    Option CapacityGraph :=
  let inverted : Relation := ⟨strength, invertGroupTransform transform⟩
  let direct : Relation := ⟨strength, transform⟩
  if first = second then some self
  else if first = self.count then some (self.setProbeRelation second inverted)
  else if second = self.count then some (self.setProbeRelation first direct)
  else if first < second then
    (self.enrollment.relationBetweenSubtemplates second first).map (self.setRelation · direct)
  else
    (self.enrollment.relationBetweenSubtemplates first second).map (self.setRelation · inverted)

/-- Both sub-templates join the group if one of them is in it. -/
def joinGroups (root candidate : Nat) : CapacityGraph :=
  if self.enrollment.groupState root = 1 ∨ self.enrollment.groupState candidate = 1 then
    { self with
      enrollment := { self.enrollment with
        subtemplates := self.enrollment.subtemplates.mapIdx fun index subtemplate =>
          if index = root ∨ index = candidate then { subtemplate with groupState := 1 }
          else subtemplate } }
  else self

end CapacityGraph

def markVisited (visited : Nat → Bool) (node : Nat) : Nat → Bool :=
  fun v => visited v || v == node

/-! ### Propagation from the probe -/

/-- `sourceToProbe` belongs to the node last taken from the stack. -/
structure Propagation where
  graph : CapacityGraph
  nullRelation : Bool
  visited : Nat → Bool
  sourceToProbe : Transform

def propagationMachine (probeNode : Nat) : Machine Propagation where
  enter state source :=
    { state with sourceToProbe := (state.graph.load probeNode source).1 }
  discover state source candidate :=
    let edge := state.graph.load source candidate
    if state.visited candidate then none
    -- `(guint32) (edge_strength - 1) > 41`: only 1..42 is an edge.
    else if (edge.2 - 1).toUInt32 > 41 then none
    else
      let marked := { state with visited := markVisited state.visited candidate }
      if source = probeNode ∨ (state.graph.load probeNode candidate).2 ≥ 2 then some marked
      else
        match state.graph.store probeNode candidate
            (composeGroupTransform state.sourceToProbe edge.1) 2 with
        | none => some { marked with nullRelation := true }
        | some graph => some { marked with graph := graph }

namespace CapacityGraph

variable (self : CapacityGraph)

/-- The guard that both searches share. -/
def admits (relationCount : Nat) : Bool :=
  self.count == self.enrollment.capacity && self.count ≤ enrollmentCapacity &&
    relationCount == self.count

/-- `propagate_capacity_relations`, with the array `visited` it fills. -/
def propagate (relationCount : Nat) : Except CapacityStop (CapacityGraph × (Nat → Bool)) :=
  if self.probeRelations.isNone ∨ self.admits relationCount = false then .error (.refused self)
  else
    let start : Propagation := ⟨self, false, fun _ => false, identityGroupTransform⟩
    let done := drain (propagationMachine self.count) (descending self.count) (self.count + 1)
      start [self.count]
    if done.nullRelation then .error .nullRelation else .ok (done.graph, done.visited)

/-- What the exported `propagate_capacity_relations` counts after it. -/
def unresolvedCount (visited : Nat → Bool) : Nat :=
  (List.range self.count).countP fun index =>
    !visited index && (self.load index self.count).2 != -2

end CapacityGraph

/-! ### Closure -/

/-- The values of one traversal; `strengths` outlives it. -/
structure Synthesis where
  graph : CapacityGraph
  nullRelation : Bool
  visited : Nat → Bool
  strengths : Nat → Nat → Int32
  sourceToRoot : Transform
  rootStrength : Int32

/-- `strengths[row][column] = value`. -/
def Synthesis.setStrength (state : Synthesis) (row column : Nat) (value : Int32) : Synthesis :=
  { state with
    strengths := fun r c => if r = row ∧ c = column then value else state.strengths r c }

def synthesisMachine (root : Nat) : Machine Synthesis where
  enter state source :=
    let loaded := state.graph.load root source
    { (state.setStrength root source loaded.2).setStrength source root loaded.2 with
      sourceToRoot := loaded.1
      rootStrength := loaded.2 }
  discover state source candidate :=
    let edge := state.graph.load source candidate
    if state.visited candidate then none
    else if edge.2 < 1 then none
    else
      let marked := { (state.setStrength source candidate edge.2).setStrength candidate source
        edge.2 with visited := markVisited state.visited candidate }
      let pathStrength := min state.rootStrength edge.2
      let existing := (state.graph.load root candidate).2
      if root = source ∨ existing > 2 ∨
          (existing = 2 ∧ marked.strengths root candidate ≥ pathStrength) then some marked
      else
        match state.graph.store root candidate
            (composeGroupTransform state.sourceToRoot edge.1) 2 with
        | none => some { marked with nullRelation := true }
        | some graph =>
          some { marked.setStrength root candidate pathStrength with
            graph := if candidate < graph.count then graph.joinGroups root candidate else graph }

/-- The traversal of one root. -/
def Synthesis.searchFrom (state : Synthesis) (root : Nat) : Synthesis :=
  drain (synthesisMachine root) (descending (state.graph.count + 1)) (state.graph.count + 1)
    { state with visited := (· == root) } [root]

namespace CapacityGraph

variable (self : CapacityGraph)

/-- `synthesize_capacity_relations`. -/
def synthesize (relationCount : Nat) : Except CapacityStop CapacityGraph :=
  if self.admits relationCount = false then .error (.refused self)
  else
    let start : Synthesis :=
      ⟨self, false, fun _ => false, fun _ _ => 0, identityGroupTransform, 0⟩
    let done := (List.range self.count).foldl Synthesis.searchFrom start
    if done.nullRelation then .error .nullRelation else .ok done.graph

end CapacityGraph

end GoodixSpi.Chicago
