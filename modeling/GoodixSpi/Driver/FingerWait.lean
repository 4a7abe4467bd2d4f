import GoodixSpi.Driver.Enroll
import GoodixSpi.Driver.MatchAction

/-! The presses of an enrollment. A capture waits for a finger with FDT-down, the driver waits
for its lift with FDT-up and FDT-manual, and a lift that was not seen leaves a gap for the next
wait to see. Each round of a wait takes what the sensor answers as its input; the answers, the
frames and the session restarts are recorded. -/

namespace GoodixSpi.Driver

abbrev touchIgnore : UInt8 := 0xff
abbrev cmdFdtUp : UInt8 := 0x34

/-- What the driver received, in order: the touch flag of an FDT answer, a frame of
`gdix51c0_capture_one_raw16`, and a restart of the session with `require_lift_gap` before it. -/
inductive PressEvent
  | answer (touchflag : UInt8)
  | frame
  | restart (requireLiftGap : Bool)
deriving DecidableEq, Repr

/-- The FDT state of the device, with the record. -/
structure FdtState where
  fdtDownSampleValid : Bool
  fdtBaselineValid : Bool
  requireLiftGap : Bool
  events : List PressEvent
deriving DecidableEq, Repr

/-- One round of `gdix51c0_wait_for_finger`: a cancelled action, the deadline before and after
the read, the FDT-down response and the next arm. -/
structure FingerRound where
  cancelled : Option DriverError
  late : Bool
  response : Except DriverError (List UInt8)
  lateAfter : Bool
  arm : Except DriverError Unit

/-- A call of `gdix51c0_wait_for_finger`, with the FDT-manual response to its base measurement. -/
structure FingerWait where
  base : Except DriverError (List UInt8)
  arm : Except DriverError Unit
  rounds : List FingerRound

/-- One round of `gdix51c0_wait_for_lift`. -/
structure LiftRound where
  cancelled : Option DriverError
  late : Bool
  arm : Except DriverError Unit
  response : Except DriverError (List UInt8)
  manual : Except DriverError (List UInt8)

/-- How `gdix51c0_session_activate` ends: with the FDT-manual responses of each attempt. -/
inductive Reactivation
  | failed (error : DriverError)
  | activated (earlier : List (List (Except DriverError (List UInt8))))
      (last : List (Except DriverError (List UInt8)))

/-- One session attempt of a capture. -/
structure SessionAttempt where
  wait : FingerWait
  image : Except DriverError Unit
  reactivation : Reactivation

/-- The number of set bits among the six zones. -/
def fdtTouchCount (touchflag : UInt8) : Nat :=
  ((List.range 6).filter fun zone => (touchflag &&& 0x3f).toNat.testBit zone).length

/-- `gdix51c0_fdt_trigger_min`, of the sensor profile if there is one. -/
def fdtTriggerMin (sensorProfile : Option UInt8) : Nat :=
  match sensorProfile with
  | some triggerMin => if 0 < triggerMin then triggerMin.toNat else 5
  | none => 5

/-- `gdix51c0_capture_error_needs_session_restart`. -/
def captureErrorNeedsSessionRestart (error : DriverError) : Bool :=
  error.code = .connectionClosed ||
    strstr error.message "image read failed after setmode ACK" ||
    strstr error.message "image data IRQ did not arrive after setmode ACK" ||
    strstr error.message "FDT lost sync"

namespace FdtState

variable (self : FdtState)

def record (event : PressEvent) : FdtState := { self with events := self.events ++ [event] }

/-- `gdix51c0_session_reset_capture_state`. -/
def resetCaptureState : FdtState :=
  { self with fdtDownSampleValid := false, requireLiftGap := false }

/-- A sample is a base without a touch, and else a sample for the thresholds of FDT-up. -/
def storeSample (touchflag : UInt8) : FdtState :=
  if touchflag &&& 0x3f = 0 then { self with fdtBaselineValid := true }
  else { self with fdtDownSampleValid := true }

/-- What `gdix51c0_fdt_down_read` makes of a response. -/
def fdtDownRead (response : List UInt8) : UInt8 × FdtState :=
  if response.length < 17 then (touchIgnore, self)
  else
    let touchflag := response.getD 5 0
    let self := self.record (.answer touchflag)
    (touchflag,
      if 20 ≤ response.length then
        { self with
          fdtDownSampleValid := true
          fdtBaselineValid := self.fdtBaselineValid || touchflag &&& 0x3f = 0 }
      else { self with fdtDownSampleValid := false })

/-- `gdix51c0_parse_fdt_up_response`. -/
def parseFdtUpResponse (response : List UInt8) : Except DriverError UInt8 × FdtState :=
  if response.length < 17 ∨ response.headD 0 ≠ cmdFdtUp then
    (.error ⟨.invalidData, "gdix51c0: invalid FDT-up response len=" ++
      toString response.length⟩, self)
  else
    let touchflag := response.getD 5 0xff
    let self := self.record (.answer touchflag)
    (.ok touchflag, if 20 ≤ response.length then self.storeSample touchflag else self)

/-- `gdix51c0_fdt_up_read`. -/
def fdtUpRead : Except DriverError (List UInt8) → Except DriverError UInt8 × FdtState
  | .error error => (.error error, self)
  | .ok response => self.parseFdtUpResponse response

/-- `gdix51c0_fdt_manual_read`. -/
def fdtManualRead : Except DriverError (List UInt8) → Except DriverError UInt8 × FdtState
  | .error error => (.error error, self)
  | .ok response =>
    if response.length < 20 then
      (.error ⟨.invalidData, "gdix51c0: short FDT manual response len=" ++
        toString response.length⟩, self)
    else
      let touchflag := response.getD 5 0xff
      (.ok touchflag, (self.record (.answer touchflag)).storeSample touchflag)

/-- `gdix51c0_fdt_measure_base`, whose failures its callers ignore. -/
def fdtMeasureBase (response : Except DriverError (List UInt8)) : FdtState :=
  (self.fdtManualRead response).2

/-- The loop of `gdix51c0_wait_for_finger`; no result stands for a wait that goes on. -/
def fingerRounds (triggerMin : Nat) :
    FdtState → List FingerRound → Option (Except DriverError Unit) × FdtState
  | self, [] => (none, self)
  | self, round :: rest =>
    -- every way on but a time-out arms FDT-down again
    let rearm (self : FdtState) : Option (Except DriverError Unit) × FdtState :=
      match round.arm with
      | .error error => (some (.error error), self)
      | .ok () => fingerRounds triggerMin self rest
    match round.cancelled with
    | some error => (some (.error error), self)
    | none =>
      if round.late then
        (some (.error ⟨.timedOut, "gdix51c0: no finger detected within timeout"⟩), self)
      else
        match round.response with
        | .error error =>
          if round.lateAfter then
            (some (.error ⟨.timedOut, "gdix51c0: no finger detected within timeout"⟩), self)
          else if error.code = .timedOut then fingerRounds triggerMin self rest
          else rearm self
        | .ok response =>
          let (touchflag, self) := self.fdtDownRead response
          if touchflag = touchIgnore then rearm self
          else if self.requireLiftGap && touchflag ≠ 0 then rearm self
          else
            let self := { self with requireLiftGap := false }
            if triggerMin ≤ fdtTouchCount touchflag then (some (.ok ()), self)
            else rearm self

/-- `gdix51c0_wait_for_finger`. -/
def waitForFinger (triggerMin : Nat) (wait : FingerWait) :
    Option (Except DriverError Unit) × FdtState :=
  let self := if self.fdtBaselineValid then self else self.fdtMeasureBase wait.base
  match wait.arm with
  | .error error => (some (.error error), self)
  | .ok () => self.fingerRounds triggerMin wait.rounds

/-- The loop of `gdix51c0_wait_for_lift`; no result stands for a wait that goes on. -/
def liftRounds : FdtState → List LiftRound → Option (Except DriverError Unit) × FdtState
  | self, [] => (none, self)
  | self, round :: rest =>
    match round.cancelled with
    | some error => (some (.error error), self)
    | none =>
      if round.late then
        (some (.error ⟨.timedOut, "gdix51c0: finger not lifted within timeout"⟩), self)
      else if self.fdtDownSampleValid = false then
        (some (.error ⟨.failed, "gdix51c0: FDT-up requested without FDT-down sample"⟩), self)
      else
        match round.arm with
        | .error error => (some (.error error), self)
        | .ok () =>
          match self.fdtUpRead round.response with
          | (.ok touchflag, self) =>
            if touchflag = 0 then (some (.ok ()), self) else self.liftRounds rest
          | (.error error, self) =>
            if error.code = .timedOut then
              -- silence is no lift: FDT-manual is asked
              match self.fdtManualRead round.manual with
              | (.error _, self) => self.liftRounds rest
              | (.ok touchflag, self) =>
                if touchflag = 0 then (some (.ok ()), self) else self.liftRounds rest
            else (some (.error error), self)

/-- `gdix51c0_wait_for_lift_report` of the enrollment, which allows an FDT-down gap. -/
def waitForLiftReport (rounds : List LiftRound) : Option Bool × FdtState :=
  match self.liftRounds rounds with
  | (none, self) => (none, self)
  | (some (.ok ()), self) => (some true, { self with requireLiftGap := false })
  | (some (.error error), self) =>
    if error.code = .timedOut then (some true, { self with requireLiftGap := true })
    else (some false, self)

/-- One attempt of the activation, whose calibration pass reads the FDT base. -/
def activateAttempt (responses : List (Except DriverError (List UInt8))) : FdtState :=
  responses.foldl fdtMeasureBase self.resetCaptureState

/-- `gdix51c0_session_activate`. -/
def activate : Reactivation → Option DriverError × FdtState
  | .failed error => (some error, self)
  | .activated earlier last => (none, (earlier ++ [last]).foldl activateAttempt self)

/-- A failed wait or image: the session is restarted, or the capture ends with the error. -/
def restartOrFail (restarts : Bool) (reactivation : Reactivation) (error : DriverError) :
    Option (Except DriverError Bool) × FdtState :=
  if captureErrorNeedsSessionRestart error && restarts then
    match (self.record (.restart self.requireLiftGap)).activate reactivation with
    | (some error, self) => (some (.error error), self)
    | (none, self) => (some (.ok false), self)
  else (some (.error error), self)

/-- One session attempt of `gdix51c0_capture_one_raw16`: a frame, or a restarted session. -/
def sessionAttempt (triggerMin : Nat) (restarts : Bool) (attempt : SessionAttempt) :
    Option (Except DriverError Bool) × FdtState :=
  match self.waitForFinger triggerMin attempt.wait with
  | (none, self) => (none, self)
  | (some (.error error), self) => self.restartOrFail restarts attempt.reactivation error
  | (some (.ok ()), self) =>
    match attempt.image with
    | .error error => self.restartOrFail restarts attempt.reactivation error
    | .ok () => (some (.ok true), self.record .frame)

/-- `gdix51c0_capture_one_raw16`. -/
def captureOneRaw16 (triggerMin : Nat) (first second : SessionAttempt) :
    Option (Except DriverError Unit) × FdtState :=
  match self.sessionAttempt triggerMin true first with
  | (none, self) => (none, self)
  | (some (.error error), self) => (some (.error error), self)
  | (some (.ok true), self) => (some (.ok ()), self)
  | (some (.ok false), self) =>
    match self.sessionAttempt triggerMin false second with
    | (none, self) => (none, self)
    | (some (.error error), self) => (some (.error error), self)
    | (some (.ok true), self) => (some (.ok ()), self)
    | (some (.ok false), self) =>
      (some (.error ⟨.failed, "gdix51c0: capture failed after session restart"⟩), self)

end FdtState

/-- One round of `gdix51c0_enroll_sync`: the capture, what becomes of its frame, and the wait for
the lift. -/
structure Press where
  first : SessionAttempt
  second : SessionAttempt
  capture : Capture Chicago.Sample
  lift : List LiftRound

/-- The loop of `gdix51c0_enroll_sync`. The round of the enrollment comes before the wait for the
lift; after the last one there is no wait. -/
def enrollPresses (triggerMin : Nat) : EnrollLoop → FdtState → List Press → FdtState
  | _, fdt, [] => fdt
  | loop, fdt, press :: rest =>
    if loop.policy.complete then fdt
    else
      match fdt.captureOneRaw16 triggerMin press.first press.second with
      | (some (.ok ()), fdt) =>
        match loop.round ⟨press.capture, true⟩ with
        | .error _ => fdt
        | .ok next =>
          if next.policy.complete then fdt
          else
            match fdt.waitForLiftReport press.lift with
            | (some true, fdt) => enrollPresses triggerMin next fdt rest
            | (_, fdt) => fdt
      | (_, fdt) => fdt

/-- `gdix51c0_enroll_sync`, on a device with any FDT state. -/
def enrollSync (sensorProfile : Option UInt8)
    (fdtDownSampleValid fdtBaselineValid requireLiftGap : Bool) (reactivation : Reactivation)
    (presses : List Press) : FdtState :=
  let fdt : FdtState := ⟨fdtDownSampleValid, fdtBaselineValid, requireLiftGap, []⟩
  match fdt.activate reactivation with
  | (some _, fdt) => fdt
  | (none, fdt) => enrollPresses (fdtTriggerMin sensorProfile) .start fdt presses

end GoodixSpi.Driver
