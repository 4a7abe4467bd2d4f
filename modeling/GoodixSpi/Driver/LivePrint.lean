import GoodixSpi.Chicago.Preprocess.Temporal
import GoodixSpi.Chicago.StoredPrint
import GoodixSpi.Driver.LiveProbe

/-! A stored print under frames of the sensor. Each frame is made into a probe, the probe is matched
against the print that is stored at the time, and what study makes of it is stored in its place,
while the preprocessor learns from every frame. -/

namespace GoodixSpi.Driver

open Chicago

/-- A frame, and the calibration of the time. -/
structure LivePress where
  capture : Preprocessor.Capture
  calibration : List UInt8

inductive PressStop
  | unprepared (error : DriverError)
  | runtime (stop : RuntimeStop)

section Run

variable (sha256 : List UInt8 → Vector UInt8 calibrationDigestLength) (sensorId : SensorId)
  (weight : Weight)

/-- What is done with the probe of a frame; a frame without a probe leaves the print as it is. -/
def serveFrame (made : Capture LiveProbe) (calibration : List UInt8) (data : PrintData) :
    Except PressStop (Option MatchTemplateResult × PrintData) :=
  match made with
  | .failed error => .error (.unprepared error)
  | .rejected _ => .ok (none, data)
  | .prepared probe =>
    match Press.matchAndStudy sha256 sensorId ⟨probe.view, calibration⟩ data with
    | .error stop => .error (.runtime stop)
    | .ok (result, stored) => .ok (some result, stored)

/-- The results of some frames, what is stored after them, and the preprocessor of that time. -/
def liveLife : List LivePress → Preprocessor → PrintData →
    Option (Preprocessor × Except PressStop (List (Option MatchTemplateResult) × PrintData))
  | [], self, data => some (self, .ok ([], data))
  | press :: rest, self, data => do
    let (made, after) ← prepareProbe self weight press.capture
    match serveFrame sha256 sensorId made press.calibration data with
    | .error stop => some (after, .error stop)
    | .ok (result, stored) => do
      let (last, later) ← liveLife rest after stored
      some (last, later.map fun served => (result :: served.1, served.2))

end Run

variable {sha256 : List UInt8 → Vector UInt8 calibrationDigestLength} {sensorId : SensorId}
  {weight : Weight} {self after : Preprocessor} {capture : Preprocessor.Capture} {data : PrintData}
  {gallery : Enrollment}

/-- Does a frame add to the gallery? -/
def adds (result : Option MatchTemplateResult) : Bool :=
  result.any fun found => found.studies.isSome

/-- One frame: the print is still a print of the sensor. -/
lemma serveFrame_keeps (stored : StoredPrint sensorId data gallery) {made : Capture LiveProbe}
    (becomes : Becomes self capture made) (calibration : List UInt8) :
    ∃ result later gallery',
      serveFrame sha256 sensorId made calibration data = .ok (result, later) ∧
      StoredPrint sensorId later gallery' ∧ gallery'.capacity = gallery.capacity ∧
      gallery'.count = if adds result then min gallery.capacity (gallery.count + 1)
        else gallery.count := by
  cases becomes with
  | badInput => exact ⟨none, data, gallery, rfl, stored, rfl, rfl⟩
  | poorCapture => exact ⟨none, data, gallery, rfl, stored, rfl, rfl⟩
  | noFeatures => exact ⟨none, data, gallery, rfl, stored, rfl, rfl⟩
  | prepared probe sound _ =>
    have studyable : (Press.mk probe.view calibration).probe.Studyable := sound.studyable
    obtain ⟨result, later, gallery', -, once, stored', studied⟩ :=
      stored.matchAndStudy sha256 studyable
    obtain ⟨capacity, count⟩ := studied.size
    refine ⟨some result, later, gallery', ?_, stored', capacity, count⟩
    unfold serveFrame
    dsimp only
    rw [once]

/-- A preprocessor that has room for a sample learns, and has room afterwards. -/
lemma learns (center : ∀ sigma, weight sigma 0 = 65536)
    (room : self.temporalSampleCount ≠ 0xffffffff) (capture : Preprocessor.Capture) :
    ∃ after, self.buildEnhancedChecked weight capture = some after ∧
      after.temporalSampleCount ≠ 0xffffffff := by
  rcases @Preprocessor.step_cases self weight capture with ⟨-, same⟩ | ⟨-, updates⟩
  · exact ⟨self, same, room⟩
  · have kept : (self.updateAdaptiveMultiplier (self.sourcePlane capture)).temporalSampleCount ≠
        0xffffffff := by rwa [Preprocessor.updateAdaptiveMultiplier_temporalSampleCount]
    obtain ⟨after, updated⟩ := Option.isSome_iff_exists.mp
      (Preprocessor.updateTemporalGain_isSome center kept (prepareFrame capture.raw)
        (prepareFrame self.imageBase))
    refine ⟨after, updates.trans updated, ?_⟩
    rw [Preprocessor.updateTemporalGain_count updated]
    intro full
    have few := (Preprocessor.cappedCount kept).2
    rw [full] at few
    exact absurd few (by decide)

/-- A frame of the list whose extraction meets a flat peak. -/
def MeetsFlat (weight : Weight) (self : Preprocessor) (presses : List LivePress) : Prop :=
  ∃ before press rest reached, presses = before ++ press :: rest ∧
    Reachability.run (Preprocessor.step weight) self (before.map LivePress.capture) =
      some reached ∧
    ∃ outcome ∈ reached.checkedCapture weight press.capture,
      outcome.status = .ok ∧ FlatSomewhere outcome.enhanced

lemma MeetsFlat.later {press : LivePress} {rest : List LivePress}
    (teaches : self.step weight press.capture = some after) (meets : MeetsFlat weight after rest) :
    MeetsFlat weight self (press :: rest) := by
  obtain ⟨before, flat, later, reached, rfl, ran, outcome⟩ := meets
  refine ⟨press :: before, flat, later, reached, rfl, ?_, outcome⟩
  rw [List.map_cons, Reachability.run_of_step teaches]
  exact ran

def plainPress : LivePress := ⟨Preprocessor.plainCapture, []⟩

end GoodixSpi.Driver
