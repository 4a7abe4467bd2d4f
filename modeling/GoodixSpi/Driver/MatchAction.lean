import GoodixSpi.Chicago.Match.Template
import GoodixSpi.Driver.Error

/-! One verify or identify action: up to three captures of one press, the report of its
result, and its completion. The device is told through events on the main thread, of which
the last one may send the report as well. -/

namespace GoodixSpi.Driver

open Chicago

/-- `FpiMatchResult`. -/
inductive MatchResult
  | fail
  | success
  | error
deriving DecidableEq, Repr

/-- `FpFingerStatusFlags`. -/
inductive FingerStatus
  | none
  | needed
deriving DecidableEq, Repr

/-- The arguments of `fpi_device_verify_report` and `fpi_device_identify_report`. -/
inductive Report (Print : Type)
  | verify (result : MatchResult) (retry : Option Retry)
  | identify (print : Option Print) (retry : Option Retry)

/-- What reaches the device. A held completion comes 150 ms later. -/
inductive Event (Print Data : Type)
  | fingerStatus (status : FingerStatus)
  | report (report : Report Print)
  | update (print : Print) (data : Data)
  | complete (error : Option DriverError) (held : Bool)

/-- The action and what it is asked to match. -/
inductive Action (Print : Type)
  | verify (template : Print)
  | identify (gallery : List Print)

/-- What a capture comes to. Without a frame and without an error the finger was lifted. -/
inductive Shot (Probe : Type)
  | missing (error : Option DriverError)
  | frame (capture : Capture Probe)

/-- `goodix_chicago_runtime_match_print_data` and `goodix_chicago_runtime_study_print_data` on the
data of a print. -/
structure Runtime (Probe Print Data : Type) where
  matchPrint : Probe → Print → Except DriverError MatchTemplateResult
  studyPrint : Probe → Print → MatchTemplateResult → Except DriverError (Option Data)

/-- What the action reads of the device. -/
structure Session where
  activated : Except DriverError Unit
  initialized : Bool
  imageBaseRefreshed : Bool
  desynced : Bool
  lifted : Bool
  desyncedAfterLift : Bool

abbrev verifyCaptureAttempts : Nat := 3

/-- Does `strstr` find the needle? -/
def strstr (haystack needle : String) : Bool :=
  haystack.toList.tails.any fun suffix => needle.toList.isPrefixOf suffix

def errorIsTransientVerifyFailure (error : DriverError) : Bool :=
  (strstr error.message "IRQ" && strstr error.message "never went") ||
    strstr error.message "TLS handshake did not receive MCU ClientHello"

variable {Probe Print Data : Type}

/-- The locals of the action. -/
structure MatchLocals (Probe Print Data : Type) where
  attempts : Nat
  probe : Option Probe
  error : Option DriverError
  sawFinger : Bool
  reported : Bool
  reportSent : Bool
  reportedMatch : Bool
  sawValidProbe : Bool
  finalVerifyResult : MatchResult
  finalIdentifyMatch : Option Print
  finalMatchResult : MatchTemplateResult
  finalMatchResultValid : Bool
  lastReject : Option RuntimeReject
  events : List (Event Print Data)

/-- How the loop over the attempts is left: at its end, or by `goto out`. -/
inductive Exit (Locals : Type)
  | loop (locals : Locals)
  | out (locals : Locals)

/-- `gdix51c0_match_report_main`. -/
def Action.report (action : Action Print) (result : MatchResult) (print : Option Print)
    (retry : Option Retry) : Report Print :=
  match action with
  | .verify _ => .verify (if retry.isSome then .error else result) retry
  | .identify _ => .identify print retry

/-- The print that a match is about. -/
def Action.matchedPrint (action : Action Print) (finalIdentifyMatch : Option Print) :
    Option Print :=
  match action with
  | .verify template => some template
  | .identify _ => finalIdentifyMatch

namespace MatchLocals

/-- The locals at the start of the loop. -/
def init : MatchLocals Probe Print Data where
  attempts := 0
  probe := none
  error := none
  sawFinger := false
  reported := false
  reportSent := false
  reportedMatch := false
  sawValidProbe := false
  finalVerifyResult := .fail
  finalIdentifyMatch := none
  finalMatchResult := .init
  finalMatchResultValid := false
  lastReject := none
  events := []

/-- An error before the loop. -/
def failed (error : DriverError) : MatchLocals Probe Print Data := { init with error := some error }

variable (self : MatchLocals Probe Print Data)

def post (event : Event Print Data) : MatchLocals Probe Print Data :=
  { self with events := self.events ++ [event] }

/-- `gdix51c0_match_report_on_main`, and `report_sent`. -/
def sendReport (action : Action Print) (result : MatchResult) (retry : Option Retry) :
    MatchLocals Probe Print Data :=
  { self.post (.report (action.report result none retry)) with reportSent := true }

end MatchLocals

/-! ### One attempt -/

namespace Runtime

variable (runtime : Runtime Probe Print Data)

/-- A probe against the template of a verify action. -/
def verifyAttempt (attempt : Nat) (template : Print) (probe : Probe)
    (locals : MatchLocals Probe Print Data) :
    EarlyExit.Step (MatchLocals Probe Print Data) (Exit (MatchLocals Probe Print Data)) :=
  match runtime.matchPrint probe template with
  | .error error => .stop (.out { locals with error := some error })
  | .ok matchResult =>
    let result : MatchResult := if matchResult.score > 0 then .success else .fail
    if result = .success ∨ attempt = verifyCaptureAttempts then
      let decided := { locals with
        finalVerifyResult := result
        reported := true
        reportedMatch := decide (result = MatchResult.success) }
      if decided.reportedMatch then
        .stop (.loop { decided with
          finalMatchResult := matchResult
          finalMatchResultValid := true })
      else .stop (.loop (decided.sendReport (.verify template) .fail none))
    else .next locals

/-- The locals of the loop over the gallery. -/
structure GalleryScan (Print : Type) where
  print : Option Print
  bestScore : Int
  result : MatchTemplateResult
  valid : Bool

/-- One print of the gallery. -/
def considerPrint (probe : Probe) (scan : GalleryScan Print) (candidate : Print) :
    EarlyExit.Step (GalleryScan Print) (GalleryScan Print × DriverError) :=
  match runtime.matchPrint probe candidate with
  | .error error => .stop (scan, error)
  | .ok matchResult =>
    if matchResult.score > 0 ∧ matchResult.score > scan.bestScore then
      .next ⟨some candidate, matchResult.score, matchResult, true⟩
    else .next scan

/-- A probe against the gallery of an identify action. -/
def identifyAttempt (attempt : Nat) (gallery : List Print) (probe : Probe)
    (locals : MatchLocals Probe Print Data) :
    EarlyExit.Step (MatchLocals Probe Print Data) (Exit (MatchLocals Probe Print Data)) :=
  match EarlyExit.run (runtime.considerPrint probe) gallery
      ⟨none, -2 ^ 31, locals.finalMatchResult, locals.finalMatchResultValid⟩ with
  | .stop (scan, error) =>
    .stop (.out { locals with
      finalMatchResult := scan.result
      finalMatchResultValid := scan.valid
      error := some error })
  | .next scan =>
    let scanned := { locals with
      finalMatchResult := scan.result
      finalMatchResultValid := scan.valid }
    if scan.print.isSome ∨ attempt = verifyCaptureAttempts then
      let decided := { scanned with
        finalIdentifyMatch := scan.print
        reported := true
        reportedMatch := scan.print.isSome }
      if decided.reportedMatch then .stop (.loop decided)
      else .stop (.loop (decided.sendReport (.identify gallery) .fail none))
    else .next scanned

def matchAttempt (action : Action Print) (attempt : Nat) (probe : Probe)
    (locals : MatchLocals Probe Print Data) :
    EarlyExit.Step (MatchLocals Probe Print Data) (Exit (MatchLocals Probe Print Data)) :=
  match action with
  | .verify template => runtime.verifyAttempt attempt template probe locals
  | .identify gallery => runtime.identifyAttempt attempt gallery probe locals

/-- One round of the loop over the attempts. -/
def captureAttempt (action : Action Print) (shots : Nat → Shot Probe)
    (locals : MatchLocals Probe Print Data) (attempt : Nat) :
    EarlyExit.Step (MatchLocals Probe Print Data) (Exit (MatchLocals Probe Print Data)) :=
  let cleared := { locals with attempts := attempt, probe := none }
  match shots attempt with
  | .missing none => .stop (.loop cleared)
  | .missing (some error) => .stop (.out { cleared with error := some error })
  | .frame (.failed error) =>
    .stop (.out { cleared with sawFinger := true, lastReject := none, error := some error })
  | .frame (.rejected reason) =>
    let rejected := { cleared with sawFinger := true, lastReject := some reason }
    if attempt < verifyCaptureAttempts then .next rejected else .stop (.loop rejected)
  | .frame (.prepared probe) =>
    runtime.matchAttempt action attempt probe { cleared with
      sawFinger := true
      lastReject := none
      probe := some probe
      sawValidProbe := true }

/-! ### After the loop -/

/-- The study of the matched print; a failed or an empty one changes nothing. -/
def study (action : Action Print) (locals : MatchLocals Probe Print Data) :
    Option (Print × Data) :=
  if locals.reportedMatch && locals.finalMatchResultValid then
    match locals.probe, action.matchedPrint locals.finalIdentifyMatch with
    | some probe, some print =>
      match runtime.studyPrint probe print locals.finalMatchResult with
      | .ok (some data) => some (print, data)
      | _ => none
    | _, _ => none
  else none

end Runtime

namespace MatchLocals

variable (self : MatchLocals Probe Print Data)

/-- `if (!reported && !error)`. -/
def reportUndecided (action : Action Print) : MatchLocals Probe Print Data :=
  if !self.reported && self.error.isNone then
    let reported := { self with reported := true }
    if !self.sawValidProbe && self.lastReject.isSome then
      reported.sendReport action .error
        (some ⟨.general, "Fingerprint image quality is too low; try again."⟩)
    else reported.sendReport action .fail none
  else self

/-- A transient error counts as no match. -/
def reportTransient (action : Action Print) : MatchLocals Probe Print Data :=
  if self.error.any errorIsTransientVerifyFailure && !self.reported then
    ({ self with reported := true }).sendReport action .fail none
  else self

/-- The wait for the finger to leave, and whether it succeeded. -/
def cleanup (session : Session) : MatchLocals Probe Print Data × Bool :=
  if self.sawFinger then
    (self.post (.fingerStatus .none),
      if self.reportedMatch && !session.imageBaseRefreshed && !session.desynced then session.lifted
      else if self.reportedMatch || session.desynced then true
      else session.lifted)
  else (self, true)

/-- The update and the report of `gdix51c0_match_complete_main`. -/
def lastWords (action : Action Print) (updated : Option (Print × Data))
    (error : Option DriverError) : List (Event Print Data) :=
  updated.toList.map (fun entry => .update entry.1 entry.2) ++
    if error.isNone && (self.reported && !self.reportSent) then
      [.report (action.report self.finalVerifyResult self.finalIdentifyMatch none)]
    else []

/-- `hold_no_match`. -/
def holdsNoMatch (action : Action Print) (error : Option DriverError) : Bool :=
  error.isNone && match action with
    | .verify _ => decide (self.finalVerifyResult = .fail)
    | .identify _ => self.finalIdentifyMatch.isNone

/-- `gdix51c0_match_complete_main`, with the error that is left. -/
def matchCompleteMain (action : Action Print) (updated : Option (Print × Data))
    (error : Option DriverError) : List (Event Print Data) :=
  self.lastWords action updated error ++ [.complete error (self.holdsNoMatch action error)]

/-- The error that is not taken for a no-match. -/
def surfaced : Option DriverError :=
  if self.error.any errorIsTransientVerifyFailure then none else self.error

end MatchLocals

/-- The events of an action, the captures it took, and whether it gave up the session. -/
structure MatchOutcome (Print Data : Type) where
  events : List (Event Print Data)
  attempts : Nat
  deactivated : Bool

/-- From the label `out` on. -/
def MatchLocals.complete (self : MatchLocals Probe Print Data) (session : Session)
    (action : Action Print) (updated : Option (Print × Data)) : MatchOutcome Print Data :=
  let (cleaned, liftCleanupOk) := (self.reportTransient action).cleanup session
  { events := cleaned.events ++ cleaned.matchCompleteMain action updated self.surfaced
    attempts := cleaned.attempts
    deactivated := self.error.isSome || session.desyncedAfterLift || !liftCleanupOk }

/-- `gdix51c0_verify_or_identify`. -/
def Runtime.verifyOrIdentify (runtime : Runtime Probe Print Data) (session : Session)
    (action : Action Print) (shots : Nat → Shot Probe) : MatchOutcome Print Data :=
  match session.activated with
  | .error error =>
    (MatchLocals.failed error : MatchLocals Probe Print Data).complete session action none
  | .ok _ =>
    if !session.initialized then
      (MatchLocals.failed ⟨.notInitialized,
        "gdix51c0: Chicago matching requires calibration and ImageBase"⟩ :
          MatchLocals Probe Print Data).complete session action none
    else
      let started : MatchLocals Probe Print Data := MatchLocals.init.post (.fingerStatus .needed)
      match EarlyExit.run (runtime.captureAttempt action shots)
          (List.range' 1 verifyCaptureAttempts) started with
      | .stop (.out locals) => locals.complete session action none
      | .stop (.loop locals) | .next locals =>
        (locals.reportUndecided action).complete session action (runtime.study action locals)

end GoodixSpi.Driver
