import GoodixSpi.Driver.Error
import GoodixSpi.Lib.Aead
import GoodixSpi.Lib.Buffer
import Mathlib.Data.Nat.Notation

/-! The container in which a PSK is written to the sensor: a header, a hash that serves as the
initialization vector, the encrypted key with its tag, and in front of them an HMAC that covers all
but the hash. -/

namespace GoodixSpi.Driver

/-- What OpenSSL computes. -/
structure Crypto where
  sha256 : List UInt8 → List UInt8
  hmacSha256 : List UInt8 → List UInt8 → List UInt8
  aes256Gcm : Aead.Scheme

structure Crypto.Lawful (crypto : Crypto) : Prop where
  length_sha256 : ∀ data, (crypto.sha256 data).length = 32
  length_hmac : ∀ key data, (crypto.hmacSha256 key data).length = 32
  gcm : crypto.aes256Gcm.Lawful 16

/-! ### The container -/

/-- The bytes of `GDIX51C0_WB_KBUF`. -/
def wbKbuf : List UInt8 :=
  [0x58, 0xf0, 0x13, 0xee, 0xb7, 0xe2, 0x16, 0xe2, 0xc1, 0xcd, 0x0e, 0x8f, 0xff, 0xa7, 0xdb, 0xd6,
    0x79, 0x9c, 0xd9, 0x2a, 0xa1, 0x49, 0x01, 0x3e, 0xa0, 0xe9, 0xf9, 0xfd, 0x7d, 0xc6, 0xd9, 0x4e,
    0x3e, 0xf6, 0x3a, 0x75, 0x98, 0xc2, 0xa4, 0x93, 0x31, 0x29, 0xe8, 0x71, 0xea, 0x03, 0x04, 0x3b]

def wbAad : List UInt8 :=
  [0x52, 0x2d, 0xc1, 0xf0, 0x99, 0x56, 0x7d, 0x07, 0xf4, 0x7f, 0x37, 0xa3, 0x2a, 0x84, 0x42, 0x7d]

def wbKey : List UInt8 := wbKbuf.take 32

def wbHmacKey : List UInt8 := wbKbuf.drop 16

/-- The fields of a container, in the order of their offsets. -/
structure WbFields where
  front : List UInt8
  hdr : List UInt8
  len : List UInt8
  h16 : List UInt8
  ct : List UInt8
  tag : List UInt8

def wbFields (wb : List UInt8) : WbFields where
  front := Buffer.read wb 0x00 32
  hdr := Buffer.read wb 0x20 2
  len := Buffer.read wb 0x22 4
  h16 := Buffer.read wb 0x26 16
  ct := Buffer.read wb 0x36 32
  tag := Buffer.read wb 0x56 16

namespace WbFields

def bytes (fields : WbFields) : List UInt8 :=
  fields.front ++ (fields.hdr ++ (fields.len ++ (fields.h16 ++ (fields.ct ++ fields.tag))))

/-- Fields of the sizes that a container has. -/
structure Fits (fields : WbFields) : Prop where
  front : fields.front.length = 32
  hdr : fields.hdr.length = 2
  len : fields.len.length = 4
  h16 : fields.h16.length = 16
  ct : fields.ct.length = 32
  tag : fields.tag.length = 16

/-- `mac_in`. -/
def macInput (fields : WbFields) : List UInt8 :=
  fields.hdr ++ fields.len ++ fields.ct ++ fields.tag

end WbFields

/-- `sha_in`. -/
def shaInput (hdr len psk : List UInt8) : List UInt8 :=
  hdr ++ len ++ psk.take 8 ++ (List.replicate 16 [0x03, 0x00, 0x00, 0x00]).flatten

/-- The fields that `gdix51c0_wb_wrap` fills in. -/
def wrapFields (crypto : Crypto) (psk : List UInt8) : WbFields :=
  let hdr := [0x02, 0xff]
  let len := [0x20, 0x00, 0x00, 0x00]
  let h16 := (crypto.sha256 (shaInput hdr len psk)).take 16
  let sealed := crypto.aes256Gcm.encrypt wbKey h16 wbAad psk
  { front := crypto.hmacSha256 wbHmacKey (hdr ++ len ++ sealed.1 ++ sealed.2)
    hdr, len, h16, ct := sealed.1, tag := sealed.2 }

/-- `gdix51c0_wb_wrap`, into a buffer. -/
def wbWrap (crypto : Crypto) (psk outWb : List UInt8) : List UInt8 :=
  let fields := wrapFields crypto psk
  let outWb := Buffer.write outWb 0x20 fields.hdr
  let outWb := Buffer.write outWb 0x22 fields.len
  let outWb := Buffer.write outWb 0x26 fields.h16
  let outWb := Buffer.write outWb 0x36 fields.ct
  let outWb := Buffer.write outWb 0x56 fields.tag
  Buffer.write outWb 0x00 fields.front

/-- What `gdix51c0_wb_unwrap` returns, and what it wrote to `out_psk`, if it wrote anything. -/
@[ext]
structure Unwrapped where
  outPsk : Option (List UInt8)
  result : Except DriverError Unit

/-- `gdix51c0_wb_unwrap`. The decryption writes its bytes before the tag is compared. -/
def wbUnwrap (crypto : Crypto) (wb : List UInt8) : Unwrapped :=
  let fields := wbFields wb
  if fields.hdr.getD 0 0 ≠ 0x02 ∨ fields.hdr.getD 1 0 ≠ 0xff ∨ fields.len.getD 0 0 ≠ 0x20 then
    ⟨none, .error ⟨.invalidData, "gdix51c0: wb: not a PSK WB (bad header/length)"⟩⟩
  else if fields.front ≠ crypto.hmacSha256 wbHmacKey fields.macInput then
    ⟨none, .error ⟨.invalidData, "gdix51c0: wb: front HMAC mismatch (wrong key or corrupt)"⟩⟩
  else
    let outPsk := crypto.aes256Gcm.decryptUpdate wbKey fields.h16 wbAad fields.ct
    if crypto.aes256Gcm.verifies wbKey fields.h16 wbAad fields.ct fields.tag = false then
      ⟨some outPsk, .error ⟨.failed, "gdix51c0: wb: GCM tag verification failed"⟩⟩
    else if (crypto.sha256 (shaInput fields.hdr fields.len outPsk)).take 16 ≠ fields.h16 then
      ⟨some outPsk, .error ⟨.invalidData, "gdix51c0: wb: h16 mismatch"⟩⟩
    else ⟨some outPsk, .ok ()⟩

/-! ### Layout -/

/-- The fields make up the container. -/
lemma bytes_wbFields {wb : List UInt8} (length : wb.length = 102) : (wbFields wb).bytes = wb := by
  simp only [WbFields.bytes, wbFields]
  rw [Buffer.read_append_read, Buffer.read_append_read, Buffer.read_append_read,
    Buffer.read_append_read, Buffer.read_append_read, Buffer.read, List.drop_zero]
  exact List.take_of_length_le (by omega)

lemma wbFields_bytes {fields : WbFields} (fits : fields.Fits) : wbFields fields.bytes = fields := by
  obtain ⟨front, hdr, len, h16, ct, tag⟩ := fields
  obtain ⟨hFront, hHdr, hLen, hH16, hCt, hTag⟩ := fits
  simp only at hFront hHdr hLen hH16 hCt hTag
  simp only [wbFields, WbFields.bytes, Buffer.read_behind hFront, Buffer.read_behind hHdr,
    Buffer.read_behind hLen, Buffer.read_behind hH16, Buffer.read_behind hCt, Nat.reduceLeDiff,
    Nat.reduceSub, Buffer.read_front hFront, Buffer.read_front hHdr, Buffer.read_front hLen,
    Buffer.read_front hH16, Buffer.read_front hCt, Buffer.read_whole hTag]

/-- The fields are written one behind the other, and the front at last. -/
lemma wbWrap_eq {crypto : Crypto} {psk outWb : List UInt8} (fits : (wrapFields crypto psk).Fits)
    (room : outWb.length = 102) : wbWrap crypto psk outWb = (wrapFields crypto psk).bytes := by
  obtain ⟨hFront, hHdr, hLen, hH16, hCt, hTag⟩ := fits
  have lengths : ∀ first second : List UInt8, (first ++ second).length =
      first.length + second.length := fun _ _ => List.length_append
  unfold wbWrap WbFields.bytes
  dsimp only
  rw [@Buffer.write_behind _ outWb _ (wrapFields crypto psk).len _ _ (by omega) (by omega),
    @Buffer.write_behind _ outWb _ (wrapFields crypto psk).h16 _ _ (by simp only [lengths]; omega)
      (by simp only [lengths]; omega),
    @Buffer.write_behind _ outWb _ (wrapFields crypto psk).ct _ _ (by simp only [lengths]; omega)
      (by simp only [lengths]; omega),
    @Buffer.write_behind _ outWb _ (wrapFields crypto psk).tag _ _ (by simp only [lengths]; omega)
      (by simp only [lengths]; omega),
    Buffer.write_zero hFront (by simp only [lengths]; omega)]
  simp only [List.append_assoc]

variable {crypto : Crypto} {psk outWb wb : List UInt8}

lemma wrapFields_fits (lawful : crypto.Lawful) (length : psk.length = 32) :
    (wrapFields crypto psk).Fits where
  front := lawful.length_hmac _ _
  hdr := rfl
  len := rfl
  h16 := by
    rw [wrapFields, List.length_take, lawful.length_sha256]
    rfl
  ct := (lawful.gcm.length_ciphertext _ _ _ _).trans length
  tag := lawful.gcm.length_tag _ _ _ _

lemma wbFields_wbWrap (lawful : crypto.Lawful) (length : psk.length = 32)
    (room : outWb.length = 102) : wbFields (wbWrap crypto psk outWb) = wrapFields crypto psk := by
  have fits := wrapFields_fits lawful length
  rw [wbWrap_eq fits room, wbFields_bytes fits]

/-! ### What the checks settle -/

/-- The header, the first byte of the length, and the front are what a wrapped key has. -/
structure Opens (crypto : Crypto) (wb : List UInt8) : Prop where
  hdr : (wbFields wb).hdr = [0x02, 0xff]
  len : (wbFields wb).len.getD 0 0 = 0x20
  front : (wbFields wb).front = crypto.hmacSha256 wbHmacKey (wbFields wb).macInput

/-- The other bytes of the length are zero, the tag verifies, and the hash binds the plaintext. -/
structure Genuine (crypto : Crypto) (wb : List UInt8) : Prop where
  len : (wbFields wb).len = [0x20, 0x00, 0x00, 0x00]
  tag : crypto.aes256Gcm.verifies wbKey (wbFields wb).h16 wbAad (wbFields wb).ct
    (wbFields wb).tag = true
  h16 : (crypto.sha256 (shaInput (wbFields wb).hdr (wbFields wb).len
    (crypto.aes256Gcm.decryptUpdate wbKey (wbFields wb).h16 wbAad (wbFields wb).ct))).take 16 =
      (wbFields wb).h16

/-- What unwrapping promises: an accepted container is what wrapping the key makes, and a rejected
one leaves the key unwritten. -/
structure UnwrapsExactly (crypto : Crypto) (wb : List UInt8) : Prop where
  accepted : ∀ psk, wbUnwrap crypto wb = ⟨some psk, .ok ()⟩ →
    ∀ outWb : List UInt8, outWb.length = 102 → wbWrap crypto psk outWb = wb
  rejected : ∀ error, (wbUnwrap crypto wb).result = .error error →
    (wbUnwrap crypto wb).outPsk = none

/-- The bytes that decryption writes. -/
def plaintext (crypto : Crypto) (wb : List UInt8) : List UInt8 :=
  crypto.aes256Gcm.decryptUpdate wbKey (wbFields wb).h16 wbAad (wbFields wb).ct

lemma header_test {wb : List UInt8} (length : wb.length = 102) :
    (wbFields wb).hdr = [0x02, 0xff] ↔
      (wbFields wb).hdr.getD 0 0 = 0x02 ∧ (wbFields wb).hdr.getD 1 0 = 0xff := by
  have two : (wbFields wb).hdr.length = 2 := Buffer.length_read (by omega)
  match (wbFields wb).hdr, two with
  | [first, second], _ => simp

lemma wbUnwrap_of_not_opens (length : wb.length = 102) (closed : ¬ Opens crypto wb) :
    ∃ error, wbUnwrap crypto wb = ⟨none, .error error⟩ := by
  unfold wbUnwrap
  dsimp only
  split
  · exact ⟨_, rfl⟩
  · rename_i header
    split
    · exact ⟨_, rfl⟩
    · rename_i front
      simp only [not_or, not_not] at header front
      exact absurd ⟨(header_test length).mpr ⟨header.1, header.2.1⟩, header.2.2, front⟩ closed

/-- Behind the front the plaintext is written, whatever the other checks say. -/
lemma wbUnwrap_of_opens (opens : Opens crypto wb) :
    (wbUnwrap crypto wb).outPsk = some (plaintext crypto wb) ∧
      ((wbUnwrap crypto wb).result = .ok () ↔
        crypto.aes256Gcm.verifies wbKey (wbFields wb).h16 wbAad (wbFields wb).ct
          (wbFields wb).tag = true ∧
        (crypto.sha256 (shaInput (wbFields wb).hdr (wbFields wb).len
          (plaintext crypto wb))).take 16 = (wbFields wb).h16) := by
  have header : ¬ ((wbFields wb).hdr.getD 0 0 ≠ 0x02 ∨ (wbFields wb).hdr.getD 1 0 ≠ 0xff ∨
      (wbFields wb).len.getD 0 0 ≠ 0x20) := by
    rw [opens.hdr, opens.len]
    decide
  unfold wbUnwrap
  dsimp only
  rw [if_neg header, if_neg (not_not_intro opens.front)]
  split
  · rename_i refused
    exact ⟨rfl, by simp [refused]⟩
  · rename_i verified
    rw [Bool.not_eq_false] at verified
    split
    · rename_i apart
      refine ⟨rfl, ?_⟩
      constructor
      · intro accepted
        cases accepted
      · rintro ⟨-, binds⟩
        exact absurd binds apart
    · rename_i binds
      exact ⟨rfl, fun _ => ⟨verified, not_not.mp binds⟩, fun _ => rfl⟩

/-- A genuine container is made by wrapping its plaintext. -/
lemma wrapFields_plaintext (lawful : crypto.Lawful) (opens : Opens crypto wb)
    (genuine : Genuine crypto wb) : wrapFields crypto (plaintext crypto wb) = wbFields wb := by
  have hash : (crypto.sha256 (shaInput [0x02, 0xff] [0x20, 0x00, 0x00, 0x00]
      (plaintext crypto wb))).take 16 = (wbFields wb).h16 := by
    rw [← opens.hdr, ← genuine.len]
    exact genuine.h16
  have sealed := lawful.gcm.encrypts genuine.tag
  have front := opens.front
  unfold WbFields.macInput at front
  rw [opens.hdr, genuine.len] at front
  unfold wrapFields
  dsimp only
  rw [hash, plaintext, sealed]
  dsimp only
  rw [← front, ← opens.hdr, ← genuine.len]

lemma length_plaintext (lawful : crypto.Lawful) (length : wb.length = 102) :
    (plaintext crypto wb).length = 32 := by
  rw [plaintext, lawful.gcm.length_plaintext]
  exact Buffer.length_read (by omega)

lemma wbWrap_plaintext (lawful : crypto.Lawful) (length : wb.length = 102)
    (opens : Opens crypto wb) (genuine : Genuine crypto wb) (room : outWb.length = 102) :
    wbWrap crypto (plaintext crypto wb) outWb = wb := by
  have fits := wrapFields_fits lawful (length_plaintext lawful length)
  rw [wbWrap_eq fits room, wrapFields_plaintext lawful opens genuine, bytes_wbFields length]

/-- What wrapping makes opens, and is genuine. -/
lemma opens_wbWrap (lawful : crypto.Lawful) (length : psk.length = 32) (room : outWb.length = 102) :
    Opens crypto (wbWrap crypto psk outWb) := by
  have fields := @wbFields_wbWrap _ _ outWb lawful length room
  constructor <;> rw [fields] <;> rfl

lemma plaintext_wbWrap (lawful : crypto.Lawful) (length : psk.length = 32)
    (room : outWb.length = 102) : plaintext crypto (wbWrap crypto psk outWb) = psk := by
  rw [plaintext, wbFields_wbWrap lawful length room]
  exact (lawful.gcm.decrypts _ _ _ psk).2

lemma genuine_wbWrap (lawful : crypto.Lawful) (length : psk.length = 32)
    (room : outWb.length = 102) : Genuine crypto (wbWrap crypto psk outWb) := by
  have fields := @wbFields_wbWrap _ _ outWb lawful length room
  have opened := @plaintext_wbWrap _ _ outWb lawful length room
  rw [plaintext] at opened
  constructor
  · rw [fields]
    rfl
  · rw [fields]
    exact (lawful.gcm.decrypts _ _ _ psk).1
  · rw [opened, fields]
    rfl

/-- What was wrapped is unwrapped. A container is unwrapped as promised when it stops before the
decryption, or when nothing behind it stops: the last three bytes of its length are zero, its tag
verifies and its hash binds the plaintext. -/
theorem white_box_exact_iff (lawful : crypto.Lawful) :
    (∀ psk outWb : List UInt8, psk.length = 32 → outWb.length = 102 →
      wbUnwrap crypto (wbWrap crypto psk outWb) = ⟨some psk, .ok ()⟩) ∧
    ∀ wb : List UInt8, wb.length = 102 →
      (UnwrapsExactly crypto wb ↔ ¬ Opens crypto wb ∨ Genuine crypto wb) := by
  constructor
  · intro psk outWb length room
    obtain ⟨written, accepts⟩ := wbUnwrap_of_opens (opens_wbWrap lawful length room)
    have genuine := @genuine_wbWrap _ _ outWb lawful length room
    rw [plaintext_wbWrap lawful length room] at written
    exact Unwrapped.ext written (accepts.mpr ⟨genuine.tag, genuine.h16⟩)
  · intro wb length
    by_cases opens : Opens crypto wb
    · obtain ⟨written, accepts⟩ := wbUnwrap_of_opens opens
      constructor
      · rintro ⟨accepted, rejected⟩
        right
        have passed : (wbUnwrap crypto wb).result = .ok () := by
          cases result : (wbUnwrap crypto wb).result with
          | error error =>
            rw [rejected error result] at written
            cases written
          | ok => rfl
        have room : (List.replicate 102 (0 : UInt8)).length = 102 := List.length_replicate
        rw [← accepted _ (Unwrapped.ext written passed) _ room]
        exact genuine_wbWrap lawful (length_plaintext lawful length) room
      · rintro (closed | genuine)
        · exact absurd opens closed
        · have accepted := accepts.mpr ⟨genuine.tag, genuine.h16⟩
          constructor
          · intro psk unwrapped outWb room
            rw [unwrapped] at written
            cases written
            exact wbWrap_plaintext lawful length opens genuine room
          · intro error failed
            rw [accepted] at failed
            cases failed
    · obtain ⟨error, refused⟩ := wbUnwrap_of_not_opens length opens
      refine ⟨fun _ => .inl opens, fun _ => ⟨?_, ?_⟩⟩
      · intro psk unwrapped
        rw [refused] at unwrapped
        cases unwrapped
      · intro _ _
        rw [refused]

/-! ### One key -/

/-- The key of the self-test, and its container. -/
def samplePsk : List UInt8 :=
  [0x00, 0x01, 0x02, 0x03, 0x04, 0x05, 0x06, 0x07, 0x08, 0x09, 0x0a, 0x0b, 0x0c, 0x0d, 0x0e, 0x0f,
    0x10, 0x11, 0x12, 0x13, 0x14, 0x15, 0x16, 0x17, 0x18, 0x19, 0x1a, 0x1b, 0x1c, 0x1d, 0x1e, 0x1f]

def sampleWb : List UInt8 :=
  [0x45, 0xa3, 0x73, 0x2a, 0xcf, 0x29, 0x90, 0xf4, 0xce, 0xb3, 0x0e, 0x89, 0x96, 0xe4, 0xad, 0xd1,
    0x2e, 0x88, 0x71, 0x60, 0xd6, 0xdc, 0xaa, 0x99, 0xc8, 0xbc, 0xd8, 0x33, 0x8c, 0x77, 0x43, 0xf2,
    0x02, 0xff, 0x20, 0x00, 0x00, 0x00, 0xe7, 0xbc, 0x09, 0x96, 0x2a, 0xed, 0xfb, 0x47, 0x0f, 0xac,
    0x38, 0x87, 0xde, 0x32, 0x46, 0x5c, 0x5a, 0x71, 0xc8, 0x8f, 0xe0, 0x1d, 0xd7, 0x76, 0xcf, 0xa5,
    0x19, 0xe7, 0x0c, 0x63, 0xf8, 0x24, 0x01, 0xf8, 0x24, 0x73, 0x24, 0xfd, 0xe9, 0xc6, 0x56, 0x23,
    0x21, 0xd4, 0xd8, 0x2b, 0x0d, 0xd5, 0x52, 0xc0, 0xbf, 0x1f, 0x74, 0x71, 0x60, 0x85, 0xb8, 0x52,
    0x65, 0x8b, 0xfe, 0x77, 0x29, 0x64]

/-- The same key with a length of `0x120`, hashed, encrypted and authenticated alike. -/
def forgedWb : List UInt8 :=
  [0xc0, 0x8e, 0x46, 0x12, 0xf4, 0xea, 0x97, 0xb6, 0xf2, 0xbb, 0x9b, 0x8c, 0x7c, 0x70, 0xdf, 0x5e,
    0xce, 0x59, 0x2d, 0x26, 0x7e, 0x29, 0xb9, 0x8d, 0xf0, 0x44, 0xb4, 0x77, 0x48, 0x8f, 0x01, 0x76,
    0x02, 0xff, 0x20, 0x01, 0x00, 0x00, 0x63, 0x73, 0xd4, 0x8e, 0x4f, 0xf2, 0x6b, 0xf0, 0xe1, 0xa0,
    0xaf, 0xc5, 0xbc, 0xcc, 0x50, 0x59, 0x24, 0xa3, 0xa9, 0x00, 0xf3, 0xeb, 0x29, 0x25, 0x31, 0x7f,
    0x7b, 0x9a, 0xd4, 0xee, 0x60, 0x32, 0x80, 0x2d, 0xcb, 0xf4, 0x49, 0x8e, 0x3d, 0x6d, 0xa5, 0x3a,
    0x27, 0x26, 0xe4, 0x77, 0xf3, 0xef, 0xd3, 0xfa, 0x1d, 0xde, 0xfb, 0x9a, 0x2b, 0xd5, 0x64, 0xbc,
    0xdd, 0x17, 0x27, 0xfe, 0x86, 0xfc]

/-- The second halves of the two hashes, which no container keeps. -/
def sampleSha : List UInt8 :=
  [0x6f, 0x5d, 0x5e, 0x77, 0xf1, 0xfb, 0x12, 0x2d, 0x2e, 0xa6, 0x41, 0xab, 0xaf, 0xa9, 0x8e, 0xdf]

def forgedSha : List UInt8 :=
  [0x19, 0x17, 0xd0, 0x5d, 0x2e, 0xa0, 0x34, 0x6f, 0x70, 0xee, 0x89, 0xbb, 0x87, 0x6c, 0xdb, 0xc7]

def sampleStream : List UInt8 :=
  [0x5a, 0x70, 0xca, 0x8c, 0xe4, 0x18, 0xd1, 0x71, 0xc7, 0xac, 0x13, 0xec, 0x00, 0x6e, 0xf6, 0x2b,
    0x11, 0xe9, 0x36, 0x60, 0x30, 0xe8, 0xff, 0xd1, 0x4e, 0x3a, 0x3b, 0xcf, 0xc4, 0x36, 0x13, 0xca]

def forgedStream : List UInt8 :=
  [0x24, 0xa2, 0xab, 0x03, 0xf7, 0xee, 0x2f, 0x22, 0x39, 0x76, 0x71, 0x91, 0xd8, 0xe3, 0x6e, 0x3d,
    0x90, 0x3c, 0xd9, 0xe7, 0x5d, 0x9b, 0x2b, 0x7a, 0xbd, 0x23, 0x3d, 0x3d, 0xf8, 0x6a, 0xed, 0xf0]

def sampleKeyStream (key iv : List UInt8) (i : ℕ) : UInt8 :=
  if key = wbKey ∧ iv = (wbFields sampleWb).h16 then sampleStream.getD i 0
  else if key = wbKey ∧ iv = (wbFields forgedWb).h16 then forgedStream.getD i 0
  else 0

def sampleTag (key iv aad ciphertext : List UInt8) : List UInt8 :=
  if key = wbKey ∧ iv = (wbFields sampleWb).h16 ∧ aad = wbAad ∧
      ciphertext = (wbFields sampleWb).ct then (wbFields sampleWb).tag
  else if key = wbKey ∧ iv = (wbFields forgedWb).h16 ∧ aad = wbAad ∧
      ciphertext = (wbFields forgedWb).ct then (wbFields forgedWb).tag
  else List.replicate 16 0

/-- OpenSSL on the inputs of these two containers. -/
def sampleCrypto : Crypto where
  sha256 data :=
    if data = shaInput [0x02, 0xff] [0x20, 0x00, 0x00, 0x00] samplePsk then
      (wbFields sampleWb).h16 ++ sampleSha
    else if data = shaInput [0x02, 0xff] [0x20, 0x01, 0x00, 0x00] samplePsk then
      (wbFields forgedWb).h16 ++ forgedSha
    else List.replicate 32 0
  hmacSha256 key data :=
    if key = wbHmacKey ∧ data = (wbFields sampleWb).macInput then (wbFields sampleWb).front
    else if key = wbHmacKey ∧ data = (wbFields forgedWb).macInput then (wbFields forgedWb).front
    else List.replicate 32 0
  aes256Gcm := Aead.ofStream sampleKeyStream sampleTag

lemma length_sampleTag (key iv aad ciphertext : List UInt8) :
    (sampleTag key iv aad ciphertext).length = 16 := by
  unfold sampleTag
  split_ifs <;> rfl

lemma sampleCrypto_lawful : sampleCrypto.Lawful where
  length_sha256 data := by
    unfold sampleCrypto
    dsimp only
    split_ifs <;> rfl
  length_hmac key data := by
    unfold sampleCrypto
    dsimp only
    split_ifs <;> rfl
  gcm := Aead.ofStream_lawful _ length_sampleTag

/-- The container of the self-test is unwrapped as promised. -/
theorem white_box_exact_sample :
    (∀ psk outWb : List UInt8, psk.length = 32 → outWb.length = 102 →
      wbUnwrap sampleCrypto (wbWrap sampleCrypto psk outWb) = ⟨some psk, .ok ()⟩) ∧
    ∀ wb : List UInt8, wb.length = 102 →
      (UnwrapsExactly sampleCrypto wb ↔ ¬ Opens sampleCrypto wb ∨ Genuine sampleCrypto wb) :=
  white_box_exact_iff sampleCrypto_lawful

/-- Two containers are accepted for one key, and wrapping it makes one of them. -/
theorem forged_length_is_accepted :
    wbUnwrap sampleCrypto forgedWb = ⟨some samplePsk, .ok ()⟩ ∧
      wbWrap sampleCrypto samplePsk (List.replicate 102 0) = sampleWb ∧ forgedWb ≠ sampleWb := by
  refine ⟨?_, ?_, ?_⟩
  · apply Unwrapped.ext
    · decide +kernel
    · rfl
  · decide +kernel
  · decide

end GoodixSpi.Driver
