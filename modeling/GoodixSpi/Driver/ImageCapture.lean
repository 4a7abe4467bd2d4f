import GoodixSpi.Driver.Error
import GoodixSpi.Driver.Listener

/-! Image captures over one TLS session. The sensor sends application-data records when it likes
and counts them; a capture drains their queue, asks for an image, waits for a record, once more
after a time-out, and hands it to TLS, which counts them too. -/

namespace GoodixSpi.Driver

/-- The content type of TLS application data, the kind of every image record. -/
abbrev appData : UInt8 := 0x17

abbrev imagePrefixLen : Nat := 3 + 5
abbrev frameBytes : Nat := 7680
abbrev imageTimeoutUsec : Nat := 1000 * 1000

/-- The bytes of a record that the listener read; the sensor had sent `number` before it. -/
structure TlsRecord where
  number : Nat
  data : List UInt8
deriving DecidableEq

/-- `gdix51c0_tls_record_header_ok`. -/
def tlsRecordHeaderOk : List UInt8 → Bool
  | type :: major :: minor :: high :: low :: body =>
    (type == 0x14 || type == 0x15 || type == 0x16 || type == 0x17) && major == 0x03 &&
      high.toNat * 256 + low.toNat + 5 ≤ (type :: major :: minor :: high :: low :: body).length
  | _ => false

/-- `SSL_read`, by the number of records it has read: the plaintext of a record or the text of
the error. A record is accepted only in its turn. -/
structure OpenSsl where
  read : Nat → TlsRecord → Except String (List UInt8)
  inTurn : ∀ records record plain, read records record = .ok plain → record.number = records

/-- The receiving end of the session, with the records that were handed to it. -/
structure Tls where
  records : Nat
  handed : List TlsRecord

variable (ssl : OpenSsl)

/-- `gdix51c0_tls_decrypt_record`. -/
def Tls.decryptRecord (self : Tls) (record : TlsRecord) : Except DriverError (List UInt8) × Tls :=
  let handed := self.handed ++ [record]
  if tlsRecordHeaderOk record.data then
    match ssl.read self.records record with
    | .ok plain => (.ok plain, ⟨self.records + 1, handed⟩)
    | .error text =>
      (.error ⟨.failed, "gdix51c0: SSL_read failed " ++ text⟩, ⟨self.records, handed⟩)
  else
    (.error ⟨.invalidData, "gdix51c0: invalid TLS record framing (len=" ++
      toString record.data.length ++ ")"⟩, ⟨self.records, handed⟩)

def hexByte (byte : UInt8) : String :=
  String.ofList [Nat.digitChar (byte.toNat / 16), Nat.digitChar (byte.toNat % 16)]

/-- What `gdix51c0_capture_image_raw` makes of the record it awaited: the packed image. -/
def Tls.openImage (self : Tls) (record : TlsRecord) : Except DriverError (List UInt8) × Tls :=
  if record.data.length < 5 then
    (.error ⟨.invalidData, "gdix51c0: image packet too short: " ++
      toString record.data.length⟩, self)
  else if tlsRecordHeaderOk record.data = false then
    (.error ⟨.invalidData, "gdix51c0: image packet is not a valid TLS record (len=" ++
      toString record.data.length ++ ")"⟩, self)
  else if record.data.headD 0 ≠ appData then
    (.error ⟨.invalidData, "gdix51c0: image packet is TLS type 0x" ++
      hexByte (record.data.headD 0) ++ ", expected appdata 0x17"⟩, self)
  else
    match self.decryptRecord ssl record with
    | (.error error, tls) =>
      (.error ⟨.failed, "gdix51c0: image TLS decrypt failed; session is no longer reusable: " ++
        error.message⟩, tls)
    | (.ok plain, tls) =>
      if plain.length < imagePrefixLen + frameBytes then
        (.error ⟨.invalidData, "gdix51c0: image plaintext too short: " ++ toString plain.length ++
          ", need at least " ++ toString (imagePrefixLen + frameBytes)⟩, tls)
      else (.ok ((plain.drop imagePrefixLen).take frameBytes), tls)

/-- Where `gdix51c0_capture_image_raw` stands, in its first or second attempt. -/
inductive CapturePoint
  | drain (attempt : Nat)
  | setmode (attempt : Nat)
  | await (attempt : Nat)
deriving DecidableEq

structure ImageSession where
  sent : Nat
  wire : List TlsRecord
  listener : Listener TlsRecord
  stopped : Bool
  tls : Tls
  capture : Option CapturePoint
  results : List (Except DriverError (List UInt8))

/-- One step of the sensor, of the thread or of the capture. The outcome of
`gdix51c0_listener_send_ack` is whatever the ACK queue makes of it. -/
inductive ImageStep
  | send (data : List UInt8)
  | receive
  | stop
  | capture
  | drain
  | setmode (failure : Option DriverError)
  | take
  | timeOut

namespace ImageSession

def start : ImageSession where
  sent := 0
  wire := []
  listener := .new
  stopped := false
  tls := ⟨0, []⟩
  capture := none
  results := []

variable (self : ImageSession)

def finish (result : Except DriverError (List UInt8)) : ImageSession :=
  { self with capture := none, results := self.results ++ [result] }

/-- The record that the wait takes is the end of the capture. -/
def take : Option ImageSession := do
  let (record, listener) ← self.listener.popHead appData
  let (result, tls) := self.tls.openImage ssl record
  return { self with listener, tls }.finish result

/-- The error of `gdix51c0_listener_await` on a queue that stays empty. -/
def awaitError (stopped : Bool) : DriverError :=
  if stopped then ⟨.closed, "gdix51c0: listener stopped while awaiting"⟩
  else ⟨.timedOut, "gdix51c0: timed out awaiting cmd 0x" ++ hexByte appData ++ " after " ++
    toString imageTimeoutUsec ++ " us"⟩

/-- Only a time-out of the first attempt is followed by a second one. -/
def timeOut (attempt : Nat) : ImageSession :=
  let error := awaitError self.stopped
  if attempt = 1 ∧ error.code = .timedOut then { self with capture := some (.drain 2) }
  else self.finish (.error ⟨.connectionClosed,
    "gdix51c0: image read failed after setmode ACK: " ++ error.message⟩)

def step (self : ImageSession) : ImageStep → Option ImageSession
  | .send data =>
    if data.head? = some appData then
      some { self with sent := self.sent + 1, wire := self.wire ++ [⟨self.sent, data⟩] }
    else none
  | .receive =>
    match self.wire with
    | [] => none
    | record :: rest =>
      some { self with wire := rest, listener := self.listener.enqueueLocked appData record }
  | .stop => some { self with stopped := true }
  | .capture =>
    if self.capture = none then some { self with capture := some (.drain 1) } else none
  | .drain =>
    match self.capture with
    | some (.drain attempt) =>
      some { self with
        listener := self.listener.drainCmd appData, capture := some (.setmode attempt) }
    | _ => none
  | .setmode failure =>
    match self.capture with
    | some (.setmode attempt) =>
      match failure with
      | none => some { self with capture := some (.await attempt) }
      | some error => some (self.finish (.error error))
    | _ => none
  | .take =>
    match self.capture with
    | some (.await _) => self.take ssl
    | _ => none
  | .timeOut =>
    match self.capture with
    | some (.await attempt) =>
      if self.listener.queues appData = [] then some (self.timeOut attempt) else none
    | _ => none

end ImageSession

end GoodixSpi.Driver
