import GoodixSpi.Chicago.Enrollment.State

/-! The data of a stored print: a packed template, bound to the sensor that took it. The digest
of the calibration is written with it and never compared. -/

namespace GoodixSpi.Chicago

abbrev sensorIdLength : Nat := 16
abbrev calibrationDigestLength : Nat := 32

/-- `GOODIX_CHICAGO_PRINT_DATA_VERSION`. -/
def printDataVersion : UInt32 := 1

abbrev SensorId := Vector UInt8 sensorIdLength

/-- A value of the type `(uayayay)`. -/
structure PrintData where
  version : UInt32
  sensor : List UInt8
  calibrationHash : List UInt8
  template : List UInt8
deriving DecidableEq

/-- What a print may hold: a value of the native type, or none or one of another type. -/
inductive Variant
  | native (data : PrintData)
  | other
deriving DecidableEq

/-- `goodix_chicago_print_data_build`; `sha256` stands for `GChecksum`. -/
def printDataBuild (sha256 : List UInt8 → Vector UInt8 calibrationDigestLength)
    (sensorId : SensorId) (calibration packedTemplate : List UInt8) : PrintData where
  version := printDataVersion
  sensor := sensorId.toList
  calibrationHash := (sha256 calibration).toList
  template := packedTemplate

/-- `goodix_chicago_print_data_parse`; without an expected sensor, any will do. -/
def printDataParse (data : Variant) (expectedSensorId : Option SensorId) :
    Except GError (List UInt8) :=
  match data with
  | .other => .error ⟨.notSupported, "gdix51c0: print is not native Chicago data"⟩
  | .native data =>
    if data.version ≠ printDataVersion then
      .error ⟨.notSupported, "gdix51c0: unsupported Chicago print version " ++
        toString data.version⟩
    else if data.sensor.length ≠ sensorIdLength ∨
        data.calibrationHash.length ≠ calibrationDigestLength ∨ data.template.length = 0 then
      .error ⟨.invalidData, "gdix51c0: malformed native Chicago print"⟩
    else if expectedSensorId.any (fun expected => data.sensor != expected.toList) then
      .error ⟨.invalidData, "gdix51c0: Chicago print belongs to another sensor"⟩
    else .ok data.template

/-- The data that the sensor reads. -/
structure PrintData.BoundTo (data : PrintData) (sensorId : SensorId) : Prop where
  version : data.version = printDataVersion
  sensor : data.sensor = sensorId.toList
  hash : data.calibrationHash.length = calibrationDigestLength
  template : data.template ≠ []

/-- Exactly the data that is bound to the sensor is read, and its template comes out of it. -/
theorem printDataParse_eq_ok_iff {data : Variant} {sensorId : SensorId} {packed : List UInt8} :
    printDataParse data (some sensorId) = .ok packed ↔
      ∃ native, data = .native native ∧ native.BoundTo sensorId ∧ packed = native.template := by
  constructor
  · intro parsed
    cases data with
    | other => cases parsed
    | native native =>
      unfold printDataParse at parsed
      dsimp only at parsed
      split at parsed
      · cases parsed
      · next version =>
        split at parsed
        · cases parsed
        · next shape =>
          split at parsed
          · cases parsed
          · next sensor =>
            cases parsed
            push Not at version shape
            refine ⟨native, rfl, ⟨version, ?_, shape.2.1, ?_⟩, rfl⟩
            · simpa using sensor
            · exact List.ne_nil_of_length_pos (Nat.pos_of_ne_zero shape.2.2)
  · rintro ⟨native, rfl, bound, rfl⟩
    have some_ : native.template.length ≠ 0 := by
      simpa [List.length_eq_zero_iff] using bound.template
    have sized : native.sensor.length = sensorIdLength := by
      rw [bound.sensor, Vector.length_toList]
    unfold printDataParse
    dsimp only
    rw [if_neg (by simpa using bound.version), if_neg, if_neg (by simp [bound.sensor])]
    push Not
    exact ⟨sized, bound.hash, some_⟩

variable {sha256 : List UInt8 → Vector UInt8 calibrationDigestLength} {sensorId : SensorId}
  {calibration packedTemplate : List UInt8}

lemma printDataBuild_boundTo (present : packedTemplate ≠ []) :
    (printDataBuild sha256 sensorId calibration packedTemplate).BoundTo sensorId where
  version := rfl
  sensor := rfl
  hash := Vector.length_toList
  template := present

end GoodixSpi.Chicago
