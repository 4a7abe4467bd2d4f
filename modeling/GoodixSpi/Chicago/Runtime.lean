import GoodixSpi.Chicago.Enrollment.CapacityOutcome
import GoodixSpi.Chicago.Match.CapacityFallback
import GoodixSpi.Chicago.Packed.Decoded
import GoodixSpi.Chicago.PrintData

/-! Matching and study on stored data. Each call reads the stored print, works on the gallery
that it finds there, and study stores a new print in its place. -/

namespace GoodixSpi.Chicago

/-- `GOODIX_CHICAGO_RUNTIME_SELECTOR_THRESHOLD`. -/
def runtimeSelectorThreshold : Int32 := 207

/-- A call that does not succeed: it reports an error, or the source dereferences `NULL`. -/
inductive RuntimeStop
  | error (error : GError)
  | fault
deriving DecidableEq

/-- `goodix_chicago_enrollment_unpack` with its one message. -/
def runtimeUnpack (packed : List UInt8) : Except RuntimeStop Enrollment :=
  match unpack packed with
  | .ok gallery => .ok gallery
  | .error .rejected => .error (.error ⟨.invalidData, "gdix51c0: invalid packed Chicago template"⟩)
  | .error _ => .error .fault

/-- The gallery of a stored print. -/
def openPrint (data : Variant) (sensorId : SensorId) : Except RuntimeStop Enrollment := do
  let packed ← (printDataParse data (some sensorId)).mapError .error
  runtimeUnpack packed

/-- `goodix_chicago_runtime_match_print_data`. -/
def runtimeMatchPrintData (probe : SubtemplateView) (data : Variant) (sensorId : SensorId) :
    Except RuntimeStop MatchTemplateResult := do
  let gallery ← openPrint data sensorId
  match gallery.matchTemplateType24 probe runtimeSelectorThreshold with
  | none => .error .fault
  | some result => return result

/-- `goodix_chicago_runtime_score_print_data`; a failed match scores `G_MININT32`. -/
def runtimeScorePrintData (probe : SubtemplateView) (data : Variant) (sensorId : SensorId) : Int :=
  match runtimeMatchPrintData probe data sensorId with
  | .ok result => result.score
  | .error _ => -2 ^ 31

/-- Is the probe of a match worth studying? -/
def MatchTemplateResult.studies (result : MatchTemplateResult) : Option Nat :=
  if result.score ≤ 0 ∨ result.selectedIndexKnown = false ∨ result.studyEligibilityKnown = false ∨
      result.studyEligible = false then none
  else result.selectedIndex

/-- The relations that study takes from a match. -/
def MatchTemplateResult.relations (result : MatchTemplateResult) : List Relation :=
  result.studyRelations.toList.take result.studyRelationCount

/-- Study of a full gallery; none when the probe takes no place in it. -/
def runtimeReplace (probe : SubtemplateView) (gallery : Enrollment) (selectedIndex : Nat)
    (relations : List Relation) : Except RuntimeStop (Option Enrollment) :=
  match gallery.selectCapacityReplacement probe selectedIndex relations true
      (some buildCapacityRelation) with
  | .error (.refused _) => .error (.error ⟨.invalidData, "gdix51c0: capacity selector failed"⟩)
  | .error _ => .error .fault
  | .ok ⟨_, none⟩ => .ok none
  | .ok ⟨graph, some replacementIndex⟩ =>
    match graph.enrollment.replaceStudy probe selectedIndex replacementIndex
        (graph.probeRelations.getD []) with
    | .ok studied => .ok (some studied)
    | .error (.error error) => .error (.error error)
    | .error .nullDereference => .error .fault

/-- The gallery with the probe in it. -/
def runtimeStudyGallery (probe : SubtemplateView) (gallery : Enrollment) (selectedIndex : Nat)
    (result : MatchTemplateResult) : Except RuntimeStop (Option Enrollment) :=
  if selectedIndex ≥ gallery.count ∨ result.studyRelationCount ≠ gallery.count then
    .error (.error ⟨.invalidData, "gdix51c0: invalid templateStudy result index=" ++
      toString selectedIndex ++ " relations=" ++ toString result.studyRelationCount ++
      " gallery=" ++ toString gallery.count⟩)
  else if gallery.count < gallery.capacity then
    match gallery.appendStudy probe selectedIndex result.relations with
    | .ok (studied, _) => .ok (some studied)
    | .error error => .error (.error error)
  else runtimeReplace probe gallery selectedIndex result.relations

/-- `goodix_chicago_runtime_study_print_data`; none leaves the print as it is. -/
def runtimeStudyPrintData (sha256 : List UInt8 → Vector UInt8 calibrationDigestLength)
    (probe : SubtemplateView) (data : Variant) (sensorId : SensorId) (calibration : List UInt8)
    (result : MatchTemplateResult) : Except RuntimeStop (Option PrintData) :=
  match result.studies with
  | none => .ok none
  | some selectedIndex => do
    let gallery ← openPrint data sensorId
    match ← runtimeStudyGallery probe gallery selectedIndex result with
    | none => return none
    | some studied =>
      let updatedPacked ← studied.pack.mapError .error
      return some (printDataBuild sha256 sensorId calibration updatedPacked)

end GoodixSpi.Chicago
