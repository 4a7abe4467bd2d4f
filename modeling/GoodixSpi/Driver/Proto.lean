import GoodixSpi.Common.Wire
import GoodixSpi.Driver.TlsHandshake

/-! A command on the SPI bus: the packet, and before it an outer header that counts its bytes. -/

namespace GoodixSpi.Driver

open Common

/-- `gdix51c0_make_header_packet`. -/
def makeHeaderPacket (type : UInt8) (payloadLen : UInt16) : Vector UInt8 4 :=
  encodeOuterHeader type payloadLen

/-- `gdix51c0_make_payload_packet`. -/
def makePayloadPacket (type : UInt8) (data : List UInt8) : Option (List UInt8) :=
  if ¬data.length ≤ 0xffff - 1 then none
  else
    let total := data.length + commandOverhead
    (encodeCommand type data (List.replicate total 0)).map Prod.fst

/-- What one call of `write` returns, and `errno` after it. -/
structure WriteResult where
  count : Int
  errno : Int

/-- The buffers that `gdix51c0_spi_write` hands to `write`: the header, and behind a header that
was written the payload. The length of the payload is narrowed to 16 bits for the header. -/
def spiWriteBuffers (outerType : UInt8) (payload : List UInt8) (header : WriteResult) :
    Vector UInt8 4 × Option (List UInt8) :=
  let hdr := makeHeaderPacket outerType (UInt16.ofNat payload.length)
  (hdr, if header.count ≠ 4 ∨ payload.length = 0 then none else some payload)

/-- How the two writes end, from which `spiWrite` makes its result. -/
def spiWriteOutcome (payloadLen : Nat) (header body : WriteResult) : SpiWrite :=
  if header.count ≠ 4 then .header header.count header.errno
  else if payloadLen = 0 then .written
  else if body.count ≠ payloadLen then .payload body.count body.errno
  else .written

/-- A receiver that reads the header, and then as many bytes as it advertises. -/
def receive (header : Vector UInt8 4) (bytes : List UInt8) : Option (UInt8 × List UInt8) :=
  (decodeOuterHeader header).map fun outer => (outer.1, bytes.take outer.2.toNat)

lemma makePayloadPacket_eq {data : List UInt8} (type : UInt8) (short : data.length ≤ 65534) :
    makePayloadPacket type data = some (commandPacket type data) := by
  have accepted : ¬¬data.length ≤ 0xffff - 1 := not_not_intro short
  have room : data.length + 4 ≤ (List.replicate (data.length + 4) (0 : UInt8)).length := by
    rw [List.length_replicate]
  rw [makePayloadPacket, if_neg accepted]
  dsimp only
  rw [encodeCommand_eq type short room, List.drop_of_length_le, List.append_nil, Option.map_some]
  rw [List.length_replicate]

lemma makePayloadPacket_isSome_iff (type : UInt8) (data : List UInt8) :
    (makePayloadPacket type data).isSome = true ↔ data.length ≤ 65534 := by
  constructor
  · intro made
    by_contra long
    rw [makePayloadPacket, if_pos long] at made
    cases made
  · intro short
    rw [makePayloadPacket_eq type short]
    rfl

/-- Whatever the writes return, the header that is sent decodes to the narrowed length. -/
lemma spiWriteBuffers_header (outerType : UInt8) (payload : List UInt8) (header : WriteResult) :
    decodeOuterHeader (spiWriteBuffers outerType payload header).1 =
      some (outerType, UInt16.ofNat payload.length) :=
  decode_encode_outer_header _ _

/-- A write that succeeds lets the payload follow the header. -/
lemma spiWriteBuffers_body {outerType : UInt8} {payload : List UInt8} {header body : WriteResult}
    (filled : payload.length ≠ 0)
    (written : spiWriteOutcome payload.length header body = .written) :
    (spiWriteBuffers outerType payload header).2 = some payload := by
  by_cases sent : header.count ≠ 4
  · rw [spiWriteOutcome, if_pos sent] at written
    cases written
  · exact if_neg (not_or_intro sent filled)

/-- The narrowing keeps the length of a packet up to 65531 bytes of payload. -/
lemma narrowed_eq_iff {length : Nat} (short : length ≤ 65534) :
    (UInt16.ofNat (length + 4)).toNat = length + 4 ↔ length ≤ 65531 := by
  rw [UInt16.toNat_ofNat']
  omega

/-- The header of a command counts its packet exactly if the packet, with its overhead, is shorter
than `2 ^ 16` bytes; the three longest payloads that can be encoded are too long. Where it does not,
a receiver that trusts the header cannot decode the command. -/
theorem outer_header_counts_packet_iff (ioErrorFromErrno : Int → IoErrorCode)
    (command outerType : UInt8) (data : List UInt8) (header body : WriteResult) :
    ((∃ packet length, makePayloadPacket command data = some packet ∧
      decodeOuterHeader (spiWriteBuffers outerType packet header).1 = some (outerType, length) ∧
        length.toNat = packet.length) ↔ data.length ≤ 65531) ∧
    ∀ packet, makePayloadPacket command data = some packet →
      spiWrite ioErrorFromErrno packet.length (spiWriteOutcome packet.length header body) = .ok () →
        ∃ bytes, (spiWriteBuffers outerType packet header).2 = some bytes ∧
          (((receive (spiWriteBuffers outerType packet header).1 bytes).bind fun outer =>
            decodeCommand outer.2 false) = some (command, data) ↔ data.length ≤ 65531) := by
  constructor
  · constructor
    · rintro ⟨packet, length, made, decoded, counts⟩
      have short := (makePayloadPacket_isSome_iff command data).mp (made ▸ rfl)
      rw [makePayloadPacket_eq command short] at made
      cases made
      rw [spiWriteBuffers_header] at decoded
      cases decoded
      rw [length_commandPacket] at counts
      exact (narrowed_eq_iff short).mp counts
    · intro short
      refine ⟨_, _, makePayloadPacket_eq command (by omega), spiWriteBuffers_header _ _ _, ?_⟩
      rw [length_commandPacket]
      exact (narrowed_eq_iff (by omega)).mpr short
  · intro packet made success
    have short := (makePayloadPacket_isSome_iff command data).mp (made ▸ rfl)
    rw [makePayloadPacket_eq command short] at made
    cases made
    have written := (spiWrite_eq_ok ioErrorFromErrno).mp success
    refine ⟨_, spiWriteBuffers_body (by rw [length_commandPacket]; omega) written, ?_⟩
    rw [receive, spiWriteBuffers_header, length_commandPacket, Option.map_some, Option.bind_some]
    constructor
    · intro decoded
      by_contra long
      have cut : (UInt16.ofNat (data.length + 4)).toNat < data.length + 4 := by
        rw [UInt16.toNat_ofNat']
        omega
      rw [decodeCommand, validateCommand_take command short cut] at decoded
      cases decoded
    · intro counted
      have whole := (narrowed_eq_iff short).mpr counted
      have packet := decodeCommand_packet command short [] false
      rw [whole, List.take_of_length_le (by rw [length_commandPacket])]
      rwa [List.append_nil] at packet

/-- A command with 65532 bytes of payload is announced as an empty one. -/
theorem outer_header_wraps :
    ∃ packet, makePayloadPacket 0x90 (List.replicate 65532 0) = some packet ∧
      packet.length = 65536 ∧
      decodeOuterHeader (spiWriteBuffers 0xa0 packet ⟨4, 0⟩).1 = some (0xa0, 0) := by
  have short : (List.replicate 65532 (0 : UInt8)).length = 65532 := List.length_replicate
  refine ⟨_, makePayloadPacket_eq 0x90 (by omega), ?_, ?_⟩
  · rw [length_commandPacket, short]
  · rw [spiWriteBuffers_header, length_commandPacket, short]
    rfl

end GoodixSpi.Driver
