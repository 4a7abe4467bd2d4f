import Mathlib.Data.Vector.Basic
import GoodixSpi.Driver.TlsHandshake

/-! Activation of the sensor, and the PSK it may write. Three flags of an open decide: a repair
is pending, was attempted, was completed. What the sensor, the system and OpenSSL do is an input
of each activation: the environment variables, the content of the state file and every outcome
may change from one to the next. -/

namespace GoodixSpi.Driver

abbrev Psk := Vector UInt8 32

/-- The whitespace of `g_ascii_isspace` and of `g_ascii_strtoull`. -/
def asciiIsSpace (character : UInt8) : Bool :=
  character = 0x20 || 0x09 ≤ character && character ≤ 0x0d

def hexDigit (character : UInt8) : Option UInt8 :=
  if 0x30 ≤ character ∧ character ≤ 0x39 then some (character - 0x30)
  else if 0x61 ≤ character ∧ character ≤ 0x66 then some (character - 0x57)
  else if 0x41 ≤ character ∧ character ≤ 0x46 then some (character - 0x37)
  else none

/-- `g_ascii_strtoull` of two characters in base 16, if it reads both. -/
def asciiStrtoull (first second : UInt8) : Option UInt8 :=
  match hexDigit first, hexDigit second with
  | some high, some low => some (16 * high + low)
  | none, some digit =>
    if asciiIsSpace first || first = 0x2b then some digit
    else if first = 0x2d then some (0 - digit)
    else none
  | _, none => none

/-- `gdix51c0_parse_psk_hex`. -/
def parsePskHex (hex : List UInt8) : Except DriverError Psk :=
  if hex.length ≠ 64 then
    .error ⟨.invalidData,
      "gdix51c0: PSK must be 64 hex chars (got " ++ toString hex.length ++ ")"⟩
  else
    let bytes : Vector (Option UInt8) 32 := .ofFn fun i =>
      asciiStrtoull (hex.getD (2 * i) 0) (hex.getD (2 * i + 1) 0)
    if bytes.all Option.isSome then .ok (bytes.map fun byte => byte.getD 0)
    else .error ⟨.invalidData, "gdix51c0: bad hex in PSK"⟩

/-- `g_strstrip`. -/
def strstrip (contents : List UInt8) : List UInt8 :=
  ((contents.dropWhile asciiIsSpace).reverse.dropWhile asciiIsSpace).reverse

/-- `gdix51c0_load_psk_state`, of the content of the state file if it can be read. -/
def loadPskState (stateFile : Option (List UInt8)) : Option Psk := do
  let contents := strstrip ((← stateFile).takeWhile (· ≠ 0))
  if contents.length ≠ 64 then none
  else (parsePskHex contents).toOption

/-- `g_ascii_strcasecmp (prov, "random") == 0`. -/
def isRandom (prov : List UInt8) : Bool :=
  prov.map (fun character =>
    if 0x41 ≤ character ∧ character ≤ 0x5a then character + 0x20 else character) =
    [0x72, 0x61, 0x6e, 0x64, 0x6f, 0x6d]

/-- How `gdix51c0_provision_psk` ends: before the write to the MCU, after it, or verified. -/
inductive Provision
  | refused (error : DriverError)
  | failed (error : DriverError)
  | verified

/-- The inputs of one activation. -/
structure Activation where
  bootProbe : Except DriverError Unit
  initSequence : Except DriverError Unit
  pskHex : Option (List UInt8)
  provisionPsk : Option (List UInt8)
  stateFile : Option (List UInt8)
  randBytes : Option Psk
  provision : Provision
  recovered : Option Psk
  tlsInit : Except DriverError Unit
  attempts : Psk → Attempt × Attempt
  postTlsD4 : Except DriverError Unit
  listener : Except DriverError Unit
  primeT0 : Except DriverError Unit

namespace Activation

variable (self : Activation)

/-- The provisioning variable, when it is set and not empty. -/
def prov : Option (List UInt8) := self.provisionPsk.filter (· ≠ [])

/-- The PSK known before any provisioning: the overriding variable, else the state file. -/
def existing : Option Psk :=
  match (self.pskHex.filter (· ≠ [])).bind fun hex => (parsePskHex hex).toOption with
  | some key => some key
  | none => loadPskState self.stateFile

/-- `gdix51c0_load_psk`. -/
def loadPsk : Except DriverError Psk :=
  match self.pskHex.filter (· ≠ []) with
  | some hex => parsePskHex hex
  | none =>
    match loadPskState self.stateFile with
    | some key => .ok key
    | none => .error ⟨.notInitialized, "gdix51c0: no PSK: set $GOODIX_TLS_PSK_HEX, or provision one " ++
        "with $GDIX51C0_PROVISION_PSK=random (see re/PARITY.md)"⟩

/-- The PSK of this session: what is known, else what the sensor gave up. -/
def selectPsk (existing : Option Psk) : Except DriverError Psk :=
  match existing, self.recovered with
  | some key, _ => .ok key
  | none, some key => .ok key
  | none, none => self.loadPsk

/-- The key to provision, which `do_provision` asks for. -/
def want (repairRequested : Bool) (prov : List UInt8) : Except DriverError (Option Psk) :=
  if isRandom prov then
    match self.existing with
    | some key => .ok (if repairRequested then some key else none)
    | none =>
      match self.randBytes with
      | none => .error ⟨.failed, "gdix51c0: provision: RAND_bytes failed"⟩
      | some key => .ok (some key)
  else do
    let key ← parsePskHex prov
    return if !repairRequested && self.existing = some key then none else some key

end Activation

/-- A handshake that was made, with its attempts. -/
structure Handshake where
  first : Attempt
  second : Attempt
  result : Except DriverError Unit

/-- What an activation did to the sensor: the key it wrote, and its handshake. -/
structure ActivationRecord where
  env : Activation
  repairRequested : Bool
  write : Option Psk
  handshake : Option Handshake

/-- The device between its activations, with the record of those of this open. -/
structure PskSession where
  pskReprovisionPending : Bool
  pskReprovisionAttemptedThisOpen : Bool
  pskReprovisionCompletedThisOpen : Bool
  tlsReady : Bool
  log : List ActivationRecord

/-- The result of `gdix51c0_session_tls_start` with its `reset_required`. -/
structure TlsStart where
  session : PskSession
  result : Except DriverError Unit
  resetRequired : Bool
  write : Option Psk
  handshake : Option Handshake

namespace PskSession

variable (ioErrorFromErrno : Int → IoErrorCode) (self : PskSession)

/-- `gdix51c0_open`. -/
def opened : PskSession :=
  { self with
    pskReprovisionPending := false
    pskReprovisionAttemptedThisOpen := false
    pskReprovisionCompletedThisOpen := false
    log := [] }

/-- The part of `gdix51c0_session_tls_start` after the provisioning. -/
def connect (env : Activation) (existing write : Option Psk) : TlsStart :=
  match env.selectPsk existing, env.tlsInit with
  | .error error, _ => ⟨self, .error error, false, write, none⟩
  | .ok _, .error error => ⟨self, .error error, false, write, none⟩
  | .ok psk, .ok () =>
    let attempts := env.attempts psk
    let result := tlsHandshake ioErrorFromErrno attempts.1 attempts.2
    let handshake : Handshake := ⟨attempts.1, attempts.2, result⟩
    match result with
    | .error error =>
      let authMismatch : Bool := error.code = .permissionDenied
      let session :=
        if authMismatch && env.prov.isSome && existing.isSome &&
            !self.pskReprovisionAttemptedThisOpen then
          { self with pskReprovisionPending := true }
        else self
      ⟨session, .error error, false, write, some handshake⟩
    | .ok () =>
      match env.postTlsD4 with
      | .error error =>
        ⟨self, .error { error with
          message := "gdix51c0: mandatory post-TLS D4 failed: " ++ error.message },
          false, write, some handshake⟩
      | .ok () => ⟨{ self with tlsReady := true }, .ok (), false, write, some handshake⟩

/-- `gdix51c0_session_tls_start`. -/
def tlsStart (env : Activation) : TlsStart :=
  let repairRequested := self.pskReprovisionPending
  match env.prov with
  | none => self.connect ioErrorFromErrno env env.existing none
  | some prov =>
    match env.want repairRequested prov with
    | .error error => ⟨self, .error error, false, none, none⟩
    | .ok none => self.connect ioErrorFromErrno env env.existing none
    | .ok (some want) =>
      -- the repair is consumed before the destructive write
      let self := if repairRequested then
        { self with
          pskReprovisionPending := false
          pskReprovisionAttemptedThisOpen := true }
        else self
      match env.provision with
      | .refused error => ⟨self, .error error, false, none, none⟩
      | .failed error => ⟨self, .error error, false, some want, none⟩
      | .verified =>
        if repairRequested then
          ⟨{ self with pskReprovisionCompletedThisOpen := true }, .ok (), true, some want, none⟩
        else self.connect ioErrorFromErrno env (some want) (some want)

/-- The device after an activation that did what the record says. -/
def logged (record : ActivationRecord) : PskSession := { self with log := self.log ++ [record] }

/-- `gdix51c0_session_activate_once`. -/
def activateOnce (env : Activation) : Except DriverError Unit × PskSession :=
  let idle : ActivationRecord := ⟨env, self.pskReprovisionPending, none, none⟩
  match env.bootProbe, env.initSequence with
  | .error error, _ => (.error error, self.logged idle)
  | .ok (), .error error => (.error error, self.logged idle)
  | .ok (), .ok () =>
    let start := self.tlsStart ioErrorFromErrno env
    let session := start.session.logged
      { idle with write := start.write, handshake := start.handshake }
    match start.result with
    | .error error => (.error error, session)
    | .ok () =>
      if start.resetRequired then
        (.error ⟨.busy, "gdix51c0: PSK restoration completed; hard-reset activation boundary " ++
          "required"⟩, session)
      else
        (do env.listener; env.primeT0, session)

/-- `gdix51c0_session_deactivate`. -/
def deactivate : PskSession := { self with tlsReady := false }

end PskSession

/-- The inputs of one round of the activation loop, with what its checks for a cancelled action
find. -/
structure Round where
  cancelledBefore : Option DriverError
  activation : Activation
  cancelledAfter : Option DriverError
  cancelledWhileWaiting : Option DriverError

namespace PskSession

variable (ioErrorFromErrno : Int → IoErrorCode)

/-- The loop of `gdix51c0_session_activate_with_attempts`. -/
def activateLoop (maxAttempts : Nat) (rounds : Nat → Round) (round failures : Nat)
    (repairBudgetGranted : Bool) (self : PskSession) : Except DriverError Unit × PskSession :=
  if failures < maxAttempts then
    match (rounds round).cancelledBefore with
    | some error => (.error error, self)
    | none =>
      match self.activateOnce ioErrorFromErrno (rounds round).activation with
      | (.ok (), session) => (.ok (), session)
      | (.error localError, session) =>
        let repairCompletedNow :=
          !self.pskReprovisionCompletedThisOpen && session.pskReprovisionCompletedThisOpen
        match (rounds round).cancelledAfter with
        | some error => (.error error, session.deactivate)
        | none =>
          if repairCompletedNow && !repairBudgetGranted then
            activateLoop maxAttempts rounds (round + 1) 0 true session.deactivate
          else if failures + 1 = maxAttempts then (.error localError, session.deactivate)
          else
            match (rounds round).cancelledWhileWaiting with
            | some error => (.error error, session.deactivate)
            | none =>
              activateLoop maxAttempts rounds (round + 1) (failures + 1) repairBudgetGranted
                session.deactivate
  else (.error ⟨.failed, "gdix51c0: activation failed unexpectedly"⟩, self)
termination_by (if repairBudgetGranted then 0 else maxAttempts + 1) + (maxAttempts - failures)
decreasing_by
  · simp_all; omega
  · omega

/-- `gdix51c0_session_activate_with_attempts`. -/
def activateWithAttempts (maxAttempts : Nat) (rounds : Nat → Round) (imageBaseRefreshed : Bool)
    (primeT0 : Except DriverError Unit) (self : PskSession) :
    Except DriverError Unit × PskSession :=
  if self.tlsReady then (if imageBaseRefreshed then .ok () else primeT0, self)
  else self.activateLoop ioErrorFromErrno (max maxAttempts 1) rounds 0 0 false

/-- What the driver does to the session between an open and the next: an activation, or a
deactivation by an action. -/
inductive Call
  | activate (maxAttempts : Nat) (rounds : Nat → Round) (imageBaseRefreshed : Bool)
      (primeT0 : Except DriverError Unit)
  | deactivate

def call (self : PskSession) : Call → PskSession
  | .activate maxAttempts rounds imageBaseRefreshed primeT0 =>
    (self.activateWithAttempts ioErrorFromErrno maxAttempts rounds imageBaseRefreshed primeT0).2
  | .deactivate => self.deactivate

/-- The calls of one open. -/
def run (self : PskSession) (calls : List Call) : PskSession :=
  calls.foldl (call ioErrorFromErrno) self.opened

end PskSession

end GoodixSpi.Driver
