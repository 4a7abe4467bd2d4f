import GoodixSpi.Chicago.Enrollment.Capacity

/-! Which sub-template of a full gallery a studied probe replaces: the one whose sensor
area the others cover best, once the relation graph is closed. -/

namespace GoodixSpi.Chicago

open CArithmetic

structure CapacityPolygon where
  points : Vector Point 5
  edges : Vector Point 4

def capacityTransformPoint (point : Point) (transform : Transform) : Point where
  x := wrap32 (shiftRight ((transform.get 0).toInt * point.x + (transform.get 1).toInt * point.y +
    (transform.get 2).toInt + 0x80) 8)
  y := wrap32 (shiftRight ((transform.get 3).toInt * point.x + (transform.get 4).toInt * point.y +
    (transform.get 5).toInt + 0x80) 8)

/-- The same call with `mapped` and `point` one object: `y` is computed from the new `x`. -/
def capacityTransformInPlace (point : Point) (transform : Transform) : Point :=
  let x := (capacityTransformPoint point transform).x
  ⟨x, (capacityTransformPoint ⟨x, point.y⟩ transform).y⟩

/-- Strictly inside the rectangle that `margin` widens on every side. -/
def Point.within (point : Point) (width height margin : Int) : Bool :=
  -margin < point.x && point.x < width + margin && -margin < point.y &&
    point.y < height + margin

def Point.inRectangle (point : Point) (width height : Int) : Bool :=
  0 ≤ point.x && point.x < width && 0 ≤ point.y && point.y < height

def polygonOf (transform : Transform) (width height : Int) : CapacityPolygon :=
  let p₀ := capacityTransformPoint ⟨0, 0⟩ transform
  let p₁ := capacityTransformPoint ⟨width, 0⟩ transform
  let p₂ := capacityTransformPoint ⟨width, height⟩ transform
  let p₃ := capacityTransformPoint ⟨0, height⟩ transform
  let edge := fun (a b : Point) => (⟨wrap32 (b.x - a.x), wrap32 (b.y - a.y)⟩ : Point)
  ⟨#v[p₀, p₁, p₂, p₃, p₀], #v[edge p₀ p₁, edge p₁ p₂, edge p₂ p₃, edge p₃ p₀]⟩

/-- `capacity_build_polygon`: none when the rectangle cannot meet its image. -/
def capacityBuildPolygon (transform : Transform) (width height : Nat) : Option CapacityPolygon :=
  let polygon := polygonOf transform width height
  let corners := polygon.points.toList.take 4
  let reaches := fun x y : Nat =>
    (capacityTransformInPlace ⟨x, y⟩ transform).inRectangle width height
  if corners.any (·.within width height (-5)) then some polygon
  else if reaches (width / 2) (height / 2) then some polygon
  else if corners.any (·.within width height 5) &&
      ((List.range ((width + 15) / 16)).any (fun column => reaches (16 * column) (height / 2)) ||
        (List.range ((height + 15) / 16)).any fun row => reaches (width / 2) (16 * row)) then
    some polygon
  else none

/-- Opposite edges see the pixel on the same side. -/
def CapacityPolygon.contains (polygon : CapacityPolygon) (x y : Int) : Bool :=
  let negative := fun (point edge : Point) =>
    decide (wrap32 (x - point.x) * edge.y - wrap32 (y - point.y) * edge.x < 0)
  negative polygon.points[0] polygon.edges[0] == negative polygon.points[2] polygon.edges[2] &&
    negative polygon.points[1] polygon.edges[1] == negative polygon.points[3] polygon.edges[3]

def featureWidth : Nat := 80
def featureHeight : Nat := 64

/-- The sampled pixels 1, 4, 7, … of a side. -/
def sampledPixels (side : Nat) : List Nat := (List.range ((side + 1) / 3)).map (3 * · + 1)

/-- Pixels that are empty, or covered by one of the polygons, in percent. -/
def capacityRedundancyScore (metricData : MetricData) (polygons : List CapacityPolygon) : Int :=
  let pixels := (sampledPixels featureHeight).flatMap fun y =>
    (sampledPixels featureWidth).map fun x => (x, y)
  let covered := pixels.countP fun pixel =>
    !bitAt metricData.coarseMask (pixel.2 / 4 * (featureWidth / 4) + pixel.1 / 4) ||
      polygons.any (·.contains pixel.1 pixel.2)
  if pixels.length > 0 then quotient (covered * 100 : Nat) pixels.length else 100

structure CapacityScores where
  probeScore : Int
  galleryScores : List Int
  galleryQualities : List Int32

namespace Enrollment

variable (self : Enrollment)

/-- The transform from `source` to `target` in the gallery, if it counts. A relation of
`target` to the probe stands in for the one of `target` to itself. -/
def coveringTransform (relations : List Relation) (target source : Nat) : Option Transform :=
  let usable := fun relation : Option Relation => relation.filter (·.inlierCount ≥ 0)
  if source = target then (usable relations[target]?).map (·.transform)
  else if source < target then
    (usable (self.relationOf target source)).map fun relation =>
      invertGroupTransform relation.transform
  else (usable (self.relationOf source target)).map (·.transform)

/-- `calculate_capacity_scores`; none is its `FALSE`. -/
def calculateCapacityScores (probe : SubtemplateView) (relations : List Relation) :
    Except CapacityStop (Option CapacityScores) :=
  if self.count ≠ self.capacity ∨ relations.length ≠ self.count ∨
      probe.hasMetricData = false then .ok none
  else
    match probe.metricData with
    | none => .error .nullMetricData
    | some metricData =>
      let probePolygons := (relations.filter (·.inlierCount ≥ 0)).filterMap fun relation =>
        capacityBuildPolygon (invertGroupTransform relation.transform) featureWidth featureHeight
      let galleryScores := self.subtemplates.mapIdx fun target subtemplate =>
        if subtemplate.hasMetricData then
          capacityRedundancyScore subtemplate.metricData
            ((List.range self.count).filterMap fun source =>
              (self.coveringTransform relations target source).bind fun transform =>
                capacityBuildPolygon transform featureWidth featureHeight)
        else 100
      .ok (some
        { probeScore := capacityRedundancyScore metricData probePolygons
          galleryScores := galleryScores
          galleryQualities := self.subtemplates.map (·.quality.toInt32) })

/-- The best covered sub-template with at most twice the probe's records, the first of
several. -/
def bestReplacement (probe : SubtemplateView) (scores : CapacityScores) : Option Nat :=
  ((self.subtemplates.zip scores.galleryScores).zipIdx.foldl
    (fun (best : Int × Option Nat) entry =>
      if entry.1.1.records.length * 50 > probe.records.length * 100 ∨ entry.1.2 ≤ best.1 then best
      else (entry.1.2, some entry.2))
    (scores.probeScore, none)).2

/-- Whether the probe replaces the sub-template it matched. -/
def replacesSelected (probe : SubtemplateView) (scores : CapacityScores) (selected : Subtemplate)
    (selectedScore : Int) : Bool :=
  let qualityRatio := if selected.quality < 60 then 90 else 80
  (selectedScore > 95 && probe.quality > 50) ||
    (probe.coverage > 80 && scores.probeScore * 9 < selectedScore * 10 &&
      probe.quality.toNat * 100 > selected.quality.toNat * qualityRatio)

def chooseReplacement (probe : SubtemplateView) (selectedIndex : Nat) (scores : CapacityScores) :
    Option Nat :=
  match self.bestReplacement probe scores with
  | some index => some index
  | none =>
    match self.subtemplates[selectedIndex]?, scores.galleryScores[selectedIndex]? with
    | some selected, some selectedScore =>
      if replacesSelected probe scores selected selectedScore then some selectedIndex else none
    | _, _ => none

end Enrollment

/-- `build_unresolved_relation`, given the gallery view, the probe and the old relation. -/
abbrev CapacityRelationBuilder := SubtemplateView → SubtemplateView → Relation → Relation

/-- `get_subtemplate`: a stored sub-template has none of the live values. -/
def Subtemplate.view (subtemplate : Subtemplate) : SubtemplateView where
  activeCount := subtemplate.activeCount
  quality := subtemplate.quality
  coverage := subtemplate.coverage
  records := subtemplate.records
  hasMetricData := subtemplate.hasMetricData
  metricData := if subtemplate.hasMetricData then some subtemplate.metricData else none
  groupState := subtemplate.groupState
  relationBase := subtemplate.relationBase
  studyState := subtemplate.studyState
  studyFlags := subtemplate.studyFlags
  lineageIndex := subtemplate.lineageIndex
  replacementCount := subtemplate.replacementCount
  studyValueA := subtemplate.studyValueA
  studyValueB := subtemplate.studyValueB
  densityPositivePercent := 0
  liveAuxiliary := Vector.replicate 6 0

namespace CapacityGraph

variable (self : CapacityGraph)

/-- One index of `refine_unresolved_capacity_relations`. -/
def refineRelation (probe : SubtemplateView) (visited : Nat → Bool)
    (builder : Option CapacityRelationBuilder) (graph : CapacityGraph) (index : Nat) :
    Except CapacityStop CapacityGraph :=
  match graph.probeRelations.bind (·[index]?), graph.enrollment.subtemplates[index]?, builder with
  | some relation, gallery, builder =>
    if visited index ∨ relation.inlierCount = -2 then .ok graph
    else
      match gallery, builder with
      | some gallery, some build =>
        .ok (graph.setProbeRelation index (build gallery.view probe relation))
      | _, _ => .error (.refused graph)
  | none, _, _ => .error (.refused graph)

def refineUnresolved (probe : SubtemplateView) (visited : Nat → Bool)
    (builder : Option CapacityRelationBuilder) : Except CapacityStop CapacityGraph :=
  (List.range self.count).foldlM (refineRelation probe visited builder) self

end CapacityGraph

/-- A successful selection; no index stands for `G_MAXUINT`. -/
structure CapacitySelection where
  graph : CapacityGraph
  replacementIndex : Option Nat
deriving DecidableEq

namespace Enrollment

variable (self : Enrollment)

/-- An unpacked gallery has the relations of the spanning forest only; the closure brings
back the others. -/
def reconstruct (reconstructGallery : Bool) : Except CapacityStop CapacityGraph :=
  if reconstructGallery then CapacityGraph.synthesize ⟨self, none⟩ self.count
  else .ok ⟨self, none⟩

/-- `select_capacity_replacement`. -/
def selectCapacityReplacement (probe : SubtemplateView) (selectedIndex : Nat)
    (probeRelations : List Relation) (reconstructGallery : Bool)
    (builder : Option CapacityRelationBuilder) : Except CapacityStop CapacitySelection :=
  if self.count ≠ self.capacity ∨ selectedIndex ≥ self.count ∨
      probeRelations.length ≠ self.count then
    .error (.refused ⟨self, some probeRelations⟩)
  else do
    let gallery ← self.reconstruct reconstructGallery
    let (propagated, visited) ←
      CapacityGraph.propagate ⟨gallery.enrollment, some probeRelations⟩ self.count
    let refined ← propagated.refineUnresolved probe visited builder
    let closed ← refined.synthesize self.count
    match ← closed.enrollment.calculateCapacityScores probe (closed.probeRelations.getD []) with
    | none => .error (.refused closed)
    | some scores =>
      return ⟨closed, closed.enrollment.chooseReplacement probe selectedIndex scores⟩

end Enrollment

end GoodixSpi.Chicago
