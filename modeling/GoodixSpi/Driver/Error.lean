import GoodixSpi.Chicago.Enrollment.State

/-! Errors of the driver, and what it tells the user between captures. -/

namespace GoodixSpi.Driver

open Chicago

/-- The codes of `G_IO_ERROR` that the driver sets, and those of other domains. -/
inductive IoErrorCode
  | chicago (code : ErrorCode)
  | failed
  | timedOut
  | notInitialized
  | cancelled
  | closed
  | connectionClosed
  | invalidData
  | permissionDenied
  | busy
  | other (domain : String) (code : Int)
deriving DecidableEq, Repr

/-- A `GError` of the driver. -/
structure DriverError where
  code : IoErrorCode
  message : String
deriving DecidableEq, Repr

/-- An error of the library is passed on as it is. -/
def DriverError.ofLibrary (error : GError) : DriverError := ⟨.chicago error.code, error.message⟩

/-- `FpDeviceRetry`. -/
inductive RetryKind
  | general
  | centerFinger
deriving DecidableEq, Repr

structure Retry where
  kind : RetryKind
  message : String
deriving DecidableEq, Repr

/-- `GoodixChicagoRuntimeReject`; no reason stands for `NONE`. -/
inductive RuntimeReject
  | badInput
  | poorCapture
  | noFeatures
deriving DecidableEq, Repr

/-- What `goodix_chicago_runtime_prepare_probe` makes of a frame, or why there is none. -/
inductive Capture (Probe : Type)
  | failed (error : DriverError)
  | rejected (reason : RuntimeReject)
  | prepared (probe : Probe)

end GoodixSpi.Driver
