import GoodixSpi.Lib.Buffer
import GoodixSpi.Lib.LittleEndian
import Mathlib.Data.List.GetD
import Mathlib.Tactic.Tauto

/-! Framing of Goodix commands: an outer header of four bytes, and command packets whose length
field counts the payload and the checksum behind it. -/

namespace GoodixSpi.Common

abbrev commandHeaderSize : Nat := 3
abbrev commandOverhead : Nat := 4
abbrev nullChecksum : UInt8 := 0x88

/-- `goodix_wire_checksum`. -/
def checksum (data : List UInt8) : UInt8 :=
  let sum : UInt32 := data.foldl (fun sum byte => sum + byte.toUInt32) 0
  (0xaa - sum).toUInt8

/-- `goodix_wire_encode_outer_header`. -/
def encodeOuterHeader (flags : UInt8) (payloadLength : UInt16) : Vector UInt8 4 :=
  let low := payloadLength.toUInt8
  let high := (payloadLength >>> 8).toUInt8
  #v[flags, low, high, flags + low + high]

/-- `goodix_wire_decode_outer_header`. -/
def decodeOuterHeader (header : Vector UInt8 4) : Option (UInt8 × UInt16) :=
  let bytes := header.toList
  if bytes.getD 0 0 + bytes.getD 1 0 + bytes.getD 2 0 ≠ bytes.getD 3 0 then none
  else some (bytes.getD 0 0, (bytes.getD 1 0).toUInt16 ||| ((bytes.getD 2 0).toUInt16 <<< 8))

/-- `goodix_wire_encode_command`: the output buffer and the encoded size. -/
def encodeCommand (command : UInt8) (payload output : List UInt8) : Option (List UInt8 × Nat) :=
  let total := payload.length + commandOverhead
  let wireLength := UInt16.ofNat (payload.length + 1)
  if payload.length > 0xffff - 1 ∨ output.length < total then none
  else
    let output := Buffer.write output 0
      [command, wireLength.toUInt8, (wireLength >>> 8).toUInt8]
    let output := Buffer.write output commandHeaderSize payload
    let output := Buffer.write output (total - 1) [checksum (output.take (total - 1))]
    some (output, total)

/-- `goodix_wire_validate_command`: the length of the payload. -/
def validateCommand (packet : List UInt8) (allowNullChecksum : Bool) : Option Nat :=
  if packet.length < commandOverhead then none
  else
    let wireLength := (packet.getD 1 0).toUInt16 ||| ((packet.getD 2 0).toUInt16 <<< 8)
    if wireLength < 1 then none
    else
      let total := commandHeaderSize + wireLength.toNat
      if packet.length < total then none
      else
        let stored := packet.getD (total - 1) 0
        if stored ≠ checksum (packet.take (total - 1)) ∧
            ¬(allowNullChecksum = true ∧ stored = nullChecksum) then none
        else some (wireLength.toNat - 1)

/-- `goodix_wire_decode_command`: the command and the payload. -/
def decodeCommand (packet : List UInt8) (allowNullChecksum : Bool) :
    Option (UInt8 × List UInt8) :=
  (validateCommand packet allowNullChecksum).map fun payloadLength =>
    (packet.getD 0 0, (packet.drop commandHeaderSize).take payloadLength)

/-! ### Outer headers -/

theorem decode_encode_outer_header (flags : UInt8) (payloadLength : UInt16) :
    decodeOuterHeader (encodeOuterHeader flags payloadLength) = some (flags, payloadLength) := by
  have joined := LittleEndian.half_halfBytes payloadLength
  rw [LittleEndian.halfBytes_eq, LittleEndian.half_cons] at joined
  have read (a b c d : UInt8) : decodeOuterHeader #v[a, b, c, d] =
      if a + b + c ≠ d then none else some (a, b.toUInt16 ||| (c.toUInt16 <<< 8)) := rfl
  rw [encodeOuterHeader, read, if_neg (not_not_intro rfl), joined]

/-! ### Command packets -/

/-- The bytes that the checksum covers. -/
def packetFront (command : UInt8) (payload : List UInt8) : List UInt8 :=
  command :: (LittleEndian.halfBytes (UInt16.ofNat (payload.length + 1)) ++ payload)

def commandPacket (command : UInt8) (payload : List UInt8) : List UInt8 :=
  packetFront command payload ++ [checksum (packetFront command payload)]

@[simp] lemma length_packetFront (command : UInt8) (payload : List UInt8) :
    (packetFront command payload).length = payload.length + 3 := by
  simp [packetFront]
  omega

@[simp] lemma length_commandPacket (command : UInt8) (payload : List UInt8) :
    (commandPacket command payload).length = payload.length + 4 := by
  simp [commandPacket]

lemma write_zero {data block : List UInt8} : Buffer.write data 0 block = block ++
    data.drop block.length := by
  simp [Buffer.write]

/-- The encoder writes the packet to the front of the buffer. -/
lemma encodeCommand_eq {payload output : List UInt8} (command : UInt8)
    (short : payload.length ≤ 65534) (room : payload.length + 4 ≤ output.length) :
    encodeCommand command payload output =
      some (commandPacket command payload ++ output.drop (payload.length + 4),
        payload.length + 4) := by
  have accepted : ¬(payload.length > 0xffff - 1 ∨ output.length < payload.length + 4) := by omega
  have front : Buffer.write (Buffer.write output 0 [command,
      (UInt16.ofNat (payload.length + 1)).toUInt8,
      (UInt16.ofNat (payload.length + 1) >>> 8).toUInt8]) 3 payload =
      Buffer.write output 0 (packetFront command payload) := by
    rw [packetFront, LittleEndian.halfBytes_eq]
    exact Buffer.write_append (by simp; omega)
  have taken : (Buffer.write output 0 (packetFront command payload)).take (payload.length + 3) =
      packetFront command payload := by
    rw [write_zero, List.take_left' (length_packetFront command payload)]
  have whole : Buffer.write (Buffer.write output 0 (packetFront command payload))
      (payload.length + 3) [checksum (packetFront command payload)] =
      Buffer.write output 0 (commandPacket command payload) := by
    rw [← length_packetFront command payload, ← Nat.zero_add (packetFront command payload).length]
    exact Buffer.write_append (by simp; omega)
  have total : payload.length + commandOverhead - 1 = payload.length + 3 := rfl
  unfold encodeCommand
  rw [if_neg accepted]
  simp only [front, total, taken, whole]
  rw [write_zero, length_commandPacket]

/-- What the validation asks of a packet with room for its header. -/
lemma validateCommand_cons_iff {command low high : UInt8} {body : List UInt8} {allowNull : Bool}
    {length : Nat} :
    validateCommand (command :: low :: high :: body) allowNull = some length ↔
      (LittleEndian.half [low, high]).toNat = length + 1 ∧ length < body.length ∧
        (body.getD length 0 = checksum (command :: low :: high :: body.take length) ∨
          allowNull = true ∧ body.getD length 0 = nullChecksum) := by
  have joined := LittleEndian.half_cons low high []
  simp only [validateCommand, commandOverhead, commandHeaderSize, List.getD_cons_zero,
    List.getD_cons_succ, List.length_cons, ← joined]
  generalize LittleEndian.half [low, high] = wireLength
  have none_left : wireLength < 1 ↔ wireLength.toNat = 0 := by
    rw [UInt16.lt_iff_toNat_lt]
    exact Nat.lt_one_iff
  simp only [none_left]
  generalize wireLength.toNat = counted
  cases counted with
  | zero => simp
  | succ counted =>
    have place : 3 + (counted + 1) - 1 = counted + 3 := by omega
    have stored : (command :: low :: high :: body).getD (counted + 3) 0 = body.getD counted 0 := rfl
    have front : (command :: low :: high :: body).take (counted + 3) =
        command :: low :: high :: body.take counted := rfl
    rw [if_neg (Nat.succ_ne_zero counted), place, stored, front, Nat.add_sub_cancel]
    by_cases room : counted < body.length
    · rw [if_neg (by omega), if_neg (by omega)]
      constructor
      · intro accepted
        split at accepted
        · cases accepted
        · rename_i passed
          cases accepted
          exact ⟨rfl, room, by tauto⟩
      · rintro ⟨same, -, passed⟩
        obtain rfl : counted = length := by omega
        rw [if_neg (by tauto)]
    · constructor
      · intro accepted
        split at accepted
        · cases accepted
        · rw [if_pos (by omega)] at accepted
          cases accepted
      · rintro ⟨same, inside, -⟩
        omega

lemma packet_append {command : UInt8} {payload rest : List UInt8} :
    commandPacket command payload ++ rest =
      command :: UInt8.ofNat (UInt16.ofNat (payload.length + 1)).toNat ::
        UInt8.ofNat ((UInt16.ofNat (payload.length + 1)).toNat / 0x100) ::
        (payload ++ checksum (packetFront command payload) :: rest) := by
  simp [commandPacket, packetFront, LittleEndian.halfBytes]

/-- The length field counts the payload and the checksum. -/
lemma toNat_lengthField {payload : List UInt8} (short : payload.length ≤ 65534) :
    (LittleEndian.half (LittleEndian.halfBytes (UInt16.ofNat (payload.length + 1)))).toNat =
      payload.length + 1 := by
  rw [LittleEndian.half_halfBytes]
  exact UInt16.toNat_ofNat_of_lt' (by simp [UInt16.size]; omega)

/-- An encoded packet, whatever follows it, is valid. -/
lemma validateCommand_packet {payload : List UInt8} (command : UInt8)
    (short : payload.length ≤ 65534) (rest : List UInt8) (allowNull : Bool) :
    validateCommand (commandPacket command payload ++ rest) allowNull = some payload.length := by
  rw [packet_append, validateCommand_cons_iff]
  refine ⟨?_, by simp, Or.inl ?_⟩
  · exact toNat_lengthField short
  · rw [List.getD_append_right _ _ _ _ le_rfl, Nat.sub_self, List.take_left]
    rfl

/-- A packet that is valid by its checksum starts as the encoded packet does. -/
lemma packet_of_validateCommand {packet : List UInt8} {length : Nat}
    (valid : validateCommand packet false = some length) :
    ∃ command payload rest, packet = commandPacket command payload ++ rest ∧
      payload.length = length ∧ payload.length ≤ 65534 := by
  match packet with
  | [] | [_] | [_, _] => cases valid
  | command :: low :: high :: body =>
    obtain ⟨counted, inside, stored | ⟨false, -⟩⟩ := validateCommand_cons_iff.mp valid
    · have whole : UInt16.ofNat (length + 1) = LittleEndian.half [low, high] := by
        rw [← counted, UInt16.ofNat_toNat]
      have bounded := (LittleEndian.half [low, high]).toNat_lt
      have taken : (body.take length).length = length := List.length_take_of_le inside.le
      have front : packetFront command (body.take length) =
          command :: low :: high :: body.take length := by
        rw [packetFront, taken, whole, LittleEndian.halfBytes_half]
        rfl
      refine ⟨command, body.take length, body.drop (length + 1), ?_, taken, by omega⟩
      have split : body.take length ++ body.getD length 0 :: body.drop (length + 1) = body := by
        rw [List.getD_eq_getElem _ _ inside, List.getElem_cons_drop, List.take_append_drop]
      rw [commandPacket, front, ← stored, List.append_assoc, List.singleton_append]
      simp only [List.cons_append, split]
    · cases false

/-- A packet of which a part is missing is refused. -/
lemma validateCommand_take {payload : List UInt8} (command : UInt8)
    (short : payload.length ≤ 65534) {size : Nat} (cut : size < payload.length + 4)
    (allowNull : Bool) :
    validateCommand ((commandPacket command payload).take size) allowNull = none := by
  match size with
  | 0 | 1 | 2 => rfl
  | size + 3 =>
    rw [← List.append_nil (commandPacket command payload), packet_append]
    refine Option.eq_none_iff_forall_ne_some.mpr fun counted valid => ?_
    obtain ⟨declared, inside, -⟩ := validateCommand_cons_iff.mp valid
    have same := declared.symm.trans (toNat_lengthField short)
    rw [List.length_take] at inside
    omega

lemma decodeCommand_packet {payload : List UInt8} (command : UInt8)
    (short : payload.length ≤ 65534) (rest : List UInt8) (allowNull : Bool) :
    decodeCommand (commandPacket command payload ++ rest) allowNull = some (command, payload) := by
  rw [decodeCommand, validateCommand_packet command short, Option.map_some, packet_append]
  simp

/-- What is encoded is decoded, with any bytes behind it; without a part of it nothing is; and by
its checksum alone nothing else is. -/
theorem command_codec :
    (∀ (command : UInt8) (payload output : List UInt8), payload.length ≤ 65534 →
      payload.length + 4 ≤ output.length →
      ∃ packet, encodeCommand command payload output =
          some (packet ++ output.drop packet.length, packet.length) ∧
        packet.length = payload.length + 4 ∧
        (∀ rest allowNull, decodeCommand (packet ++ rest) allowNull = some (command, payload)) ∧
        ∀ size < packet.length, ∀ allowNull, decodeCommand (packet.take size) allowNull = none) ∧
    ∀ (packet : List UInt8) (command : UInt8) (payload : List UInt8),
      decodeCommand packet false = some (command, payload) →
        ∃ encoded rest, packet = encoded ++ rest ∧
          encodeCommand command payload (List.replicate (payload.length + 4) 0) =
            some (encoded, payload.length + 4) := by
  constructor
  · intro command payload output short room
    refine ⟨commandPacket command payload, ?_, length_commandPacket _ _, ?_, ?_⟩
    · rw [encodeCommand_eq command short room, length_commandPacket]
    · exact decodeCommand_packet command short
    · intro size cut allowNull
      rw [length_commandPacket] at cut
      rw [decodeCommand, validateCommand_take command short cut, Option.map_none]
  · intro packet command payload decoded
    obtain ⟨length, valid, -⟩ := Option.map_eq_some_iff.mp decoded
    obtain ⟨command', payload', rest, rfl, -, short⟩ := packet_of_validateCommand valid
    rw [decodeCommand_packet command' short] at decoded
    cases decoded
    refine ⟨_, rest, rfl, ?_⟩
    rw [encodeCommand_eq command short (by rw [List.length_replicate]), List.drop_of_length_le,
      List.append_nil]
    rw [List.length_replicate]

end GoodixSpi.Common
