import GoodixSpi.Driver.Error

/-! The TLS handshake with the MCU. A refused key is told from a corrupted or lost record by
two attempts that both saw the whole client flight; an SPI write that fails ends the handshake
with the code of its `errno`. -/

namespace GoodixSpi.Driver

/-- What `SSL_accept` has seen of the client in one attempt. -/
structure HandshakeProgress where
  sawClientHello : Bool
  sawClientKeyExchange : Bool
  sawChangeCipherSpec : Bool
deriving DecidableEq, Repr

namespace HandshakeProgress

def start : HandshakeProgress := ⟨false, false, false⟩

/-- One TLS record of `gdix51c0_note_handshake_progress`; `body` is what follows its header. -/
def noteRecord (tls : HandshakeProgress) (contentType : UInt8) (recordLen : Nat)
    (body : List UInt8) : HandshakeProgress :=
  if contentType = 0x14 then { tls with sawChangeCipherSpec := true }
  else if contentType = 0x16 ∧ 4 ≤ recordLen ∧ recordLen ≤ body.length then
    if body.head? = some 0x01 then { tls with sawClientHello := true }
    else if body.head? = some 0x10 then { tls with sawClientKeyExchange := true }
    else tls
  else tls

lemma length_drop_lt (a b c d e : UInt8) (body : List UInt8) (count : Nat) :
    (body.drop count).length < (a :: b :: c :: d :: e :: body).length := by
  simp only [List.length_drop, List.length_cons]
  omega

/-- `gdix51c0_note_handshake_progress`, from `offset` on. -/
def note (tls : HandshakeProgress) : List UInt8 → HandshakeProgress
  | contentType :: _ :: _ :: high :: low :: body =>
    let recordLen := high.toNat * 256 + low.toNat
    let tls := tls.noteRecord contentType recordLen body
    -- the malformed ChangeCipherSpec has length zero and still carries a byte
    if recordLen = 0 ∨ body.length < recordLen then tls
    else tls.note (body.drop recordLen)
  | _ => tls
termination_by buf => buf.length
decreasing_by exact length_drop_lt _ _ _ _ _ _ _

/-- `complete_client_flight`. -/
def completeClientFlight (tls : HandshakeProgress) : Bool :=
  tls.sawClientHello && tls.sawClientKeyExchange && tls.sawChangeCipherSpec

end HandshakeProgress

/-- The messages of the client flight. -/
inductive ClientMessage
  | clientHello
  | clientKeyExchange
  | changeCipherSpec
deriving DecidableEq, Repr

/-- A message is in a packet: in its first record, or in those after it. -/
inductive Carries : ClientMessage → List UInt8 → Prop
  | changeCipherSpec (version version' high low : UInt8) (body : List UInt8) :
      Carries .changeCipherSpec (0x14 :: version :: version' :: high :: low :: body)
  | clientHello (version version' high low : UInt8) (body : List UInt8)
      (long : 4 ≤ high.toNat * 256 + low.toNat)
      (whole : high.toNat * 256 + low.toNat ≤ body.length) (kind : body.head? = some 0x01) :
      Carries .clientHello (0x16 :: version :: version' :: high :: low :: body)
  | clientKeyExchange (version version' high low : UInt8) (body : List UInt8)
      (long : 4 ≤ high.toNat * 256 + low.toNat)
      (whole : high.toNat * 256 + low.toNat ≤ body.length) (kind : body.head? = some 0x10) :
      Carries .clientKeyExchange (0x16 :: version :: version' :: high :: low :: body)
  | next {message : ClientMessage} (contentType version version' high low : UInt8)
      (body : List UInt8) (nonempty : high.toNat * 256 + low.toNat ≠ 0)
      (whole : high.toNat * 256 + low.toNat ≤ body.length)
      (later : Carries message (body.drop (high.toNat * 256 + low.toNat))) :
      Carries message (contentType :: version :: version' :: high :: low :: body)

namespace HandshakeProgress

/-- The flag of a message. -/
def saw (tls : HandshakeProgress) : ClientMessage → Bool
  | .clientHello => tls.sawClientHello
  | .clientKeyExchange => tls.sawClientKeyExchange
  | .changeCipherSpec => tls.sawChangeCipherSpec

lemma completeClientFlight_eq_true {tls : HandshakeProgress} :
    tls.completeClientFlight = true ↔ ∀ message, tls.saw message = true := by
  constructor
  · intro complete message
    simp only [completeClientFlight, Bool.and_eq_true] at complete
    cases message with
    | clientHello => exact complete.1.1
    | clientKeyExchange => exact complete.1.2
    | changeCipherSpec => exact complete.2
  · intro seen
    simp only [completeClientFlight, Bool.and_eq_true]
    exact ⟨⟨seen .clientHello, seen .clientKeyExchange⟩, seen .changeCipherSpec⟩

/-- The message that a record is on its own. -/
def IsMessage (contentType : UInt8) (recordLen : Nat) (body : List UInt8) : ClientMessage → Prop
  | .changeCipherSpec => contentType = 0x14
  | .clientHello =>
    contentType = 0x16 ∧ 4 ≤ recordLen ∧ recordLen ≤ body.length ∧ body.head? = some 0x01
  | .clientKeyExchange =>
    contentType = 0x16 ∧ 4 ≤ recordLen ∧ recordLen ≤ body.length ∧ body.head? = some 0x10

lemma saw_noteRecord (tls : HandshakeProgress) (contentType : UInt8) (recordLen : Nat)
    (body : List UInt8) (message : ClientMessage) :
    (tls.noteRecord contentType recordLen body).saw message = true ↔
      tls.saw message = true ∨ IsMessage contentType recordLen body message := by
  cases message <;> simp only [noteRecord, saw, IsMessage] <;> grind

lemma carries_cons (contentType version version' high low : UInt8) (body : List UInt8)
    (message : ClientMessage) :
    Carries message (contentType :: version :: version' :: high :: low :: body) ↔
      IsMessage contentType (high.toNat * 256 + low.toNat) body message ∨
        high.toNat * 256 + low.toNat ≠ 0 ∧ high.toNat * 256 + low.toNat ≤ body.length ∧
          Carries message (body.drop (high.toNat * 256 + low.toNat)) := by
  constructor
  · intro carried
    cases carried with
    | changeCipherSpec => exact .inl rfl
    | clientHello _ _ _ _ _ long whole kind => exact .inl ⟨rfl, long, whole, kind⟩
    | clientKeyExchange _ _ _ _ _ long whole kind => exact .inl ⟨rfl, long, whole, kind⟩
    | next _ _ _ _ _ _ nonempty whole later => exact .inr ⟨nonempty, whole, later⟩
  · rintro (here | ⟨nonempty, whole, later⟩)
    · cases message with
      | clientHello =>
        obtain ⟨rfl, long, whole, kind⟩ := here
        exact .clientHello _ _ _ _ _ long whole kind
      | clientKeyExchange =>
        obtain ⟨rfl, long, whole, kind⟩ := here
        exact .clientKeyExchange _ _ _ _ _ long whole kind
      | changeCipherSpec =>
        obtain rfl : contentType = 0x14 := here
        exact .changeCipherSpec _ _ _ _ _
    · exact .next _ _ _ _ _ _ nonempty whole later

/-- The flags say which messages the packet carries. -/
lemma saw_note (tls : HandshakeProgress) (buf : List UInt8) (message : ClientMessage) :
    (tls.note buf).saw message = true ↔ tls.saw message = true ∨ Carries message buf := by
  induction tls, buf using note.induct with
  | case1 tls contentType version version' high low body recordLen last =>
    rw [note, if_pos last, saw_noteRecord, carries_cons]
    apply or_congr_right
    constructor
    · exact .inl
    · rintro (here | ⟨nonempty, whole, -⟩)
      · exact here
      · omega
  | case2 tls contentType version version' high low body recordLen noted more ih =>
    rw [note, if_neg more, ih, saw_noteRecord, carries_cons, or_assoc]
    apply or_congr_right
    apply or_congr_right
    constructor
    · exact fun later => ⟨by omega, by omega, later⟩
    · exact fun later => later.2.2
  | case3 tls buf short =>
    rw [note.eq_def]
    constructor
    · intro seen
      split at seen
      · exact (short _ _ _ _ _ _ rfl).elim
      · exact .inl seen
    · rintro (seen | carried)
      · split
        · exact (short _ _ _ _ _ _ rfl).elim
        · exact seen
      · cases carried <;> exact (short _ _ _ _ _ _ rfl).elim

lemma saw_foldl_note (tls : HandshakeProgress) (packets : List (List UInt8))
    (message : ClientMessage) :
    (packets.foldl note tls).saw message = true ↔
      tls.saw message = true ∨ ∃ packet ∈ packets, Carries message packet := by
  induction packets generalizing tls with
  | nil => simp
  | cons packet packets ih => simp [ih, saw_note, or_assoc]

end HandshakeProgress

/-- The reasons in the queue of OpenSSL that the driver tells apart. -/
inductive SslReason
  | decryptionFailedOrBadRecordMac
  | decryptionFailed
  | recordLayerFailure
  | other (reason : Int)
deriving DecidableEq, Repr

/-- `SSL_get_error`. -/
inductive SslError
  | ssl
  | other (code : Int)
deriving DecidableEq, Repr

/-- An entry of the error queue, with the text OpenSSL has for it. -/
structure QueueError where
  reason : SslReason
  text : Option String
deriving DecidableEq, Repr

/-- `gdix51c0_spi_write` of a payload: which of its two `write` calls fell short, at what count
and with what `errno`. -/
inductive SpiWrite
  | written
  | header (count errno : Int)
  | payload (count errno : Int)
deriving DecidableEq, Repr

/-- How `gdix51c0_tls_recreate_ssl` ends: what it could not make, and OpenSSL's text. -/
inductive Recreated
  | done
  | ssl (text : String)
  | bio (text : String)
deriving DecidableEq, Repr

/-- What comes of one attempt from outside: the new SSL object on a retry, the write of the d1
trigger, the packets that `SSL_accept` reads, and what it makes of them. -/
structure Attempt where
  recreated : Recreated
  trigger : SpiWrite
  packets : List (List UInt8)
  accepted : Bool
  sslError : SslError
  queue : List QueueError
deriving DecidableEq, Repr

namespace Attempt

variable (self : Attempt)

/-- The flags after `SSL_accept`. They start clear in both attempts. -/
def progress : HandshakeProgress := self.packets.foldl .note .start

def sawConcreteAuthFailure : Bool :=
  self.queue.any fun entry => entry.reason = .decryptionFailedOrBadRecordMac ||
    entry.reason = .decryptionFailed

def sawRecordLayerFailure : Bool := self.queue.any fun entry => entry.reason = .recordLayerFailure

/-- The test on `ssl_err`, the client flight and the queue that both attempts make. -/
def completeAuthRecordFailure : Bool :=
  self.sslError = .ssl && self.progress.completeClientFlight &&
    (self.sawConcreteAuthFailure || self.sawRecordLayerFailure)

/-- The attempt failed with a record or MAC error of OpenSSL, after the whole client flight. -/
structure AuthRecordFailure (attempt : Attempt) : Prop where
  triggered : attempt.trigger = .written
  refused : attempt.accepted = false
  sslError : attempt.sslError = .ssl
  reason : ∃ entry ∈ attempt.queue, entry.reason = .decryptionFailedOrBadRecordMac ∨
    entry.reason = .decryptionFailed ∨ entry.reason = .recordLayerFailure
  flight : ∀ message, ∃ packet ∈ attempt.packets, Carries message packet

variable {self} in
lemma authRecordFailure_iff : self.AuthRecordFailure ↔ self.trigger = .written ∧
    self.accepted = false ∧ self.completeAuthRecordFailure = true := by
  have flight : self.progress.completeClientFlight = true ↔
      ∀ message, ∃ packet ∈ self.packets, Carries message packet := by
    rw [HandshakeProgress.completeClientFlight_eq_true]
    apply forall_congr'
    intro message
    rw [progress, HandshakeProgress.saw_foldl_note]
    cases message <;> simp [HandshakeProgress.start, HandshakeProgress.saw]
  have reason : (self.sawConcreteAuthFailure || self.sawRecordLayerFailure) = true ↔
      ∃ entry ∈ self.queue, entry.reason = .decryptionFailedOrBadRecordMac ∨
        entry.reason = .decryptionFailed ∨ entry.reason = .recordLayerFailure := by
    simp only [sawConcreteAuthFailure, sawRecordLayerFailure, Bool.or_eq_true, List.any_eq_true,
      decide_eq_true_eq]
    grind
  simp only [completeAuthRecordFailure, Bool.and_eq_true, decide_eq_true_eq]
  constructor
  · intro failure
    exact ⟨failure.triggered, failure.refused, ⟨failure.sslError, flight.mpr failure.flight⟩,
      reason.mpr failure.reason⟩
  · rintro ⟨triggered, refused, ⟨sslError, complete⟩, seen⟩
    exact ⟨triggered, refused, sslError, reason.mp seen, flight.mp complete⟩

/-- `queue_reasons`. -/
def queueReasons : String :=
  " | ".intercalate (self.queue.map fun entry => entry.text.getD "unknown")

end Attempt

/-- `gdix51c0_openssl_error`. -/
def opensslError (what text : String) : DriverError :=
  ⟨.failed, "gdix51c0: " ++ what ++ ": " ++ text⟩

/-- `gdix51c0_tls_recreate_ssl`, whose flags are cleared before it can fail. -/
def tlsRecreateSsl : Recreated → Except DriverError Unit
  | .done => .ok ()
  | .ssl text => .error (opensslError "SSL_new retry" text)
  | .bio text => .error (opensslError "BIO_new retry" text)

section

-- GLib's `g_io_error_from_errno`
variable (ioErrorFromErrno : Int → IoErrorCode)

/-- `gdix51c0_spi_write` of a payload that is not empty. -/
def spiWrite (payloadLen : Nat) : SpiWrite → Except DriverError Unit
  | .written => .ok ()
  | .header count errno =>
    .error ⟨ioErrorFromErrno errno, "gdix51c0: write header: " ++ toString count ++ "/4"⟩
  | .payload count errno =>
    .error ⟨ioErrorFromErrno errno,
      "gdix51c0: write payload: " ++ toString count ++ "/" ++ toString payloadLen⟩

def d1Payload : List UInt8 := [0xd1, 0x03, 0x00, 0x00, 0x00, 0xd7]

/-- `gdix51c0_tls_handshake`, whose loop makes two attempts. -/
def tlsHandshake (first second : Attempt) : Except DriverError Unit := do
  spiWrite ioErrorFromErrno d1Payload.length first.trigger
  if first.accepted then
    return
  -- no PSK write is authorized by one observation
  let firstCompleteAuthRecordFailure := first.completeAuthRecordFailure
  tlsRecreateSsl second.recreated
  spiWrite ioErrorFromErrno d1Payload.length second.trigger
  if second.accepted then
    return
  if firstCompleteAuthRecordFailure && second.completeAuthRecordFailure then
    throw ⟨.permissionDenied,
      "gdix51c0: TLS PSK authentication mismatch after two complete client flights (" ++
        (if second.queueReasons.isEmpty then "no reason" else second.queueReasons) ++ ")"⟩
  throw ⟨.connectionClosed,
    "gdix51c0: TLS handshake failed without a confirmed PSK mismatch (ssl_err=" ++
      (match second.sslError with | .ssl => "1" | .other code => toString code) ++ ", reasons=" ++
      (if second.queueReasons.isEmpty then "none" else second.queueReasons) ++ ")"⟩

@[simp] lemma spiWrite_written (payloadLen : Nat) :
    spiWrite ioErrorFromErrno payloadLen .written = .ok () := rfl

@[simp] lemma spiWrite_eq_ok {payloadLen : Nat} {write : SpiWrite} :
    spiWrite ioErrorFromErrno payloadLen write = .ok () ↔ write = .written := by
  cases write <;> simp [spiWrite]

/-- The write of a trigger fails, and GLib calls its `errno` a denied permission. -/
def TriggerDenied (write : SpiWrite) : Prop :=
  ∃ error, spiWrite ioErrorFromErrno d1Payload.length write = .error error ∧
    error.code = .permissionDenied

/-- The triggers that a handshake comes to write: the second attempt is made after a refusal. -/
def triggerWrites (first second : Attempt) : List SpiWrite :=
  first.trigger :: if first.trigger = .written ∧ first.accepted = false ∧ second.recreated = .done
    then [second.trigger] else []

/-- When a handshake fails with `PERMISSION_DENIED`: the write of a trigger was denied, or two
attempts refused the key. -/
lemma tlsHandshake_denied_iff (first second : Attempt) :
    (∃ error, tlsHandshake ioErrorFromErrno first second = .error error ∧
      error.code = .permissionDenied) ↔
    (∃ write ∈ triggerWrites first second, TriggerDenied ioErrorFromErrno write) ∨
      second.recreated = .done ∧ first.AuthRecordFailure ∧ second.AuthRecordFailure := by
  simp only [tlsHandshake, triggerWrites, TriggerDenied, Attempt.authRecordFailure_iff, bind,
    Except.bind]
  cases firstWrite : spiWrite ioErrorFromErrno d1Payload.length first.trigger with
  | error error =>
    have unwritten : first.trigger ≠ .written := fun written => by simp [written] at firstWrite
    simp [unwritten, firstWrite]
  | ok =>
    have written : first.trigger = .written := (spiWrite_eq_ok _).mp firstWrite
    cases accepted : first.accepted with
    | true => simp [written, pure, Except.pure]
    | false =>
      cases recreated : second.recreated with
      | ssl text => simp [written, tlsRecreateSsl, opensslError]
      | bio text => simp [written, tlsRecreateSsl, opensslError]
      | done =>
        cases secondWrite : spiWrite ioErrorFromErrno d1Payload.length second.trigger with
        | error error =>
          have unwritten : second.trigger ≠ .written :=
            fun written => by simp [written] at secondWrite
          simp [written, unwritten, tlsRecreateSsl, secondWrite]
        | ok =>
          have written' : second.trigger = .written := (spiWrite_eq_ok _).mp secondWrite
          cases second.accepted with
          | true => simp [written, written', tlsRecreateSsl, pure, Except.pure]
          | false =>
            cases first.completeAuthRecordFailure <;>
              cases second.completeAuthRecordFailure <;>
                simp [written, written', tlsRecreateSsl, throw, throwThe, MonadExceptOf.throw]

end

end GoodixSpi.Driver
