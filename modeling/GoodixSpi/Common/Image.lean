import GoodixSpi.Lib.Buffer
import Mathlib.Algebra.GroupWithZero.Nat

/-! The packed 12-bit image: six bytes carry four pixels. -/

namespace GoodixSpi.Common

abbrev raw12GroupBytes : Nat := 6
abbrev raw12GroupPixels : Nat := 4

/-- The four pixels of a group of six bytes. -/
def decodeGroup (source : List UInt8) : List UInt16 :=
  let byte (index : Nat) : UInt8 := source.getD index 0
  [((byte 0 &&& 0x0f).toUInt16 <<< 8) ||| (byte 1).toUInt16,
    ((byte 3).toUInt16 <<< 4) ||| (byte 0 >>> 4).toUInt16,
    ((byte 5 &&& 0x0f).toUInt16 <<< 8) ||| (byte 2).toUInt16,
    ((byte 4).toUInt16 <<< 4) ||| (byte 5 >>> 4).toUInt16]

def raw12Groups (packedLength pixelCapacity : Nat) : Nat :=
  min (packedLength / raw12GroupBytes) (pixelCapacity / raw12GroupPixels)

/-- `goodix_raw12_decode`: the pixel buffer, and how many pixels were written. -/
def raw12Decode (packed : List UInt8) (pixels : List UInt16) : List UInt16 × Nat :=
  let groups := raw12Groups packed.length pixels.length
  ((List.range groups).foldl (fun pixels group =>
      Buffer.write pixels (group * raw12GroupPixels)
        (decodeGroup (Buffer.read packed (group * raw12GroupBytes) raw12GroupBytes))) pixels,
    groups * raw12GroupPixels)

/-- The pixels that a call writes. -/
def raw12Written (packed : List UInt8) (pixels : List UInt16) : List UInt16 :=
  (raw12Decode packed pixels).1.take (raw12Decode packed pixels).2

/-- The bytes that it reads. -/
def raw12Consumed (packed : List UInt8) (pixels : List UInt16) : List UInt8 :=
  packed.take (raw12Groups packed.length pixels.length * raw12GroupBytes)

/-! ### A group -/

/-- A shifted word and one that fits below it. -/
lemma toNat_shift_or {high low : UInt16} {bits : Nat} (few : bits < 16)
    (fits : high.toNat * 2 ^ bits < 2 ^ 16) (below : low.toNat < 2 ^ bits) :
    ((high <<< UInt16.ofNat bits) ||| low).toNat = high.toNat * 2 ^ bits + low.toNat := by
  have amount : (UInt16.ofNat bits).toNat % 16 = bits := by
    rw [UInt16.toNat_ofNat']
    omega
  have joined := Nat.two_pow_add_eq_or_of_lt below high.toNat
  rw [UInt16.toNat_or, UInt16.toNat_shiftLeft, amount, Nat.shiftLeft_eq, Nat.mod_eq_of_lt fits,
    Nat.mul_comm, ← joined]

lemma toNat_and_nibble (a : UInt8) : (a &&& 0x0f).toNat = a.toNat % 16 := by
  rw [UInt8.toNat_and]
  exact Nat.and_two_pow_sub_one_eq_mod a.toNat 4

lemma toNat_shift_nibble (a : UInt8) : (a >>> 4).toNat = a.toNat / 16 := by
  rw [UInt8.toNat_shiftRight]
  exact Nat.shiftRight_eq_div_pow a.toNat 4

lemma toNat_high_nibble (a b : UInt8) :
    (((a &&& 0x0f).toUInt16 <<< 8) ||| b.toUInt16).toNat = a.toNat % 16 * 0x100 + b.toNat := by
  have nibble := toNat_and_nibble a
  have whole := @toNat_shift_or (a &&& 0x0f).toUInt16 b.toUInt16 8 (by omega)
    (by rw [UInt8.toNat_toUInt16, nibble]; omega) b.toNat_lt
  rw [UInt8.toNat_toUInt16, UInt8.toNat_toUInt16, nibble] at whole
  exact whole

lemma toNat_low_nibble (a d : UInt8) :
    ((d.toUInt16 <<< 4) ||| (a >>> 4).toUInt16).toNat = d.toNat * 16 + a.toNat / 16 := by
  have nibble := toNat_shift_nibble a
  have ha := a.toNat_lt
  have hd := d.toNat_lt
  have whole := @toNat_shift_or d.toUInt16 (a >>> 4).toUInt16 4 (by omega)
    (by rw [UInt8.toNat_toUInt16]; omega) (by rw [UInt8.toNat_toUInt16, nibble]; omega)
  rw [UInt8.toNat_toUInt16, UInt8.toNat_toUInt16, nibble] at whole
  exact whole

@[simp] lemma length_decodeGroup (source : List UInt8) : (decodeGroup source).length = 4 := rfl

/-- The numbers that the four pixels of a group are. -/
lemma decodeGroup_toNat (a b c d e f : UInt8) :
    (decodeGroup [a, b, c, d, e, f]).map UInt16.toNat =
      [a.toNat % 16 * 0x100 + b.toNat, d.toNat * 16 + a.toNat / 16,
        f.toNat % 16 * 0x100 + c.toNat, e.toNat * 16 + f.toNat / 16] := by
  simp only [← toNat_high_nibble, ← toNat_low_nibble]
  rfl

/-- The six bytes of four pixels. -/
def encodeGroup (pixels : List UInt16) : List UInt8 :=
  let pixel (index : Nat) : Nat := (pixels.getD index 0).toNat
  [UInt8.ofNat (pixel 1 % 16 * 16 + pixel 0 / 0x100), UInt8.ofNat (pixel 0),
    UInt8.ofNat (pixel 2), UInt8.ofNat (pixel 1 / 16), UInt8.ofNat (pixel 3 / 16),
    UInt8.ofNat (pixel 3 % 16 * 16 + pixel 2 / 0x100)]

@[simp] lemma length_encodeGroup (pixels : List UInt16) : (encodeGroup pixels).length = 6 := rfl

lemma decodeGroup_lt {source : List UInt8} (six : source.length = 6) :
    ∀ pixel ∈ decodeGroup source, pixel.toNat < 4096 := by
  match source, six with
  | [a, b, c, d, e, f], _ =>
    intro pixel mem
    have listed := List.mem_map_of_mem (f := UInt16.toNat) mem
    rw [decodeGroup_toNat] at listed
    have hb := b.toNat_lt
    have hc := c.toNat_lt
    have hd := d.toNat_lt
    have he := e.toNat_lt
    have ha := a.toNat_lt
    have hf := f.toNat_lt
    simp only [List.mem_cons, List.not_mem_nil, or_false] at listed
    omega

lemma encode_decodeGroup {source : List UInt8} (six : source.length = 6) :
    encodeGroup (decodeGroup source) = source := by
  match source, six with
  | [a, b, c, d, e, f], _ =>
    have listed := decodeGroup_toNat a b c d e f
    generalize decodeGroup [a, b, c, d, e, f] = pixels at listed
    obtain ⟨p, q, r, s, rfl⟩ : ∃ p q r s, pixels = [p, q, r, s] :=
      List.length_eq_four.mp (by simpa using congrArg List.length listed)
    simp only [List.map_cons, List.map_nil, List.cons.injEq, and_true] at listed
    have ha := a.toNat_lt
    have hb := b.toNat_lt
    have hc := c.toNat_lt
    have hd := d.toNat_lt
    have he := e.toNat_lt
    have hf := f.toNat_lt
    simp only [encodeGroup, List.getD_cons_zero, List.getD_cons_succ, List.cons.injEq, and_true,
      ← UInt8.toNat_inj, UInt8.toNat_ofNat']
    omega

lemma decode_encodeGroup {pixels : List UInt16} (four : pixels.length = 4)
    (narrow : ∀ pixel ∈ pixels, pixel.toNat < 4096) :
    decodeGroup (encodeGroup pixels) = pixels := by
  match pixels, four with
  | [p, q, r, s], _ =>
    simp only [List.forall_mem_cons] at narrow
    have inj : Function.Injective (List.map UInt16.toNat) :=
      List.map_injective_iff.mpr fun _ _ => UInt16.toNat_inj.mp
    refine inj ((decodeGroup_toNat _ _ _ _ _ _).trans ?_)
    simp only [List.getD_cons_zero, List.getD_cons_succ, List.map_cons, List.map_nil,
      List.cons.injEq, and_true, UInt8.toNat_ofNat']
    omega

/-! ### The loop -/

/-- The group that a loop step reads. -/
def sourceGroup (packed : List UInt8) (group : Nat) : List UInt8 :=
  Buffer.read packed (group * raw12GroupBytes) raw12GroupBytes

section loop

variable {packed : List UInt8} {pixels : List UInt16}

lemma groups_room : raw12Groups packed.length pixels.length * 6 ≤ packed.length ∧
    raw12Groups packed.length pixels.length * 4 ≤ pixels.length := by
  have read := Nat.div_mul_le_self packed.length 6
  have written := Nat.div_mul_le_self pixels.length 4
  change min (packed.length / 6) (pixels.length / 4) * 6 ≤ _ ∧
    min (packed.length / 6) (pixels.length / 4) * 4 ≤ _
  omega

lemma length_decoded (count : Nat) : ((List.range count).flatMap
    fun group => decodeGroup (sourceGroup packed group)).length = count * 4 := by
  simp [List.length_flatMap]

lemma raw12Decode_eq : raw12Decode packed pixels =
    (Buffer.write pixels 0 ((List.range (raw12Groups packed.length pixels.length)).flatMap
      fun group => decodeGroup (sourceGroup packed group)),
      raw12Groups packed.length pixels.length * 4) := by
  have written := @Buffer.foldl_write _ pixels 0 4
    (fun group => decodeGroup (sourceGroup packed group)) (fun _ => rfl)
    (raw12Groups packed.length pixels.length)
    (by rw [Nat.zero_add]; exact groups_room.2)
  simp only [Nat.zero_add] at written
  exact congrArg (·, raw12Groups packed.length pixels.length * 4) written

lemma raw12Written_eq : raw12Written packed pixels =
    (List.range (raw12Groups packed.length pixels.length)).flatMap
      fun group => decodeGroup (sourceGroup packed group) := by
  rw [raw12Written, raw12Decode_eq, Buffer.write, List.take_zero, List.nil_append]
  exact List.take_left' (length_decoded _)

lemma raw12Consumed_eq : raw12Consumed packed pixels =
    (List.range (raw12Groups packed.length pixels.length)).flatMap (sourceGroup packed) :=
  (Buffer.flatMap_read groups_room.1).symm

lemma length_raw12Written : (raw12Written packed pixels).length =
    4 * min (packed.length / 6) (pixels.length / 4) := by
  rw [raw12Written_eq, length_decoded, Nat.mul_comm]
  rfl

lemma length_sourceGroup {group : Nat}
    (inside : group < raw12Groups packed.length pixels.length) :
    (sourceGroup packed group).length = 6 := by
  have room := (@groups_room packed pixels).1
  exact Buffer.length_read (show group * 6 + 6 ≤ packed.length by omega)

/-- The pixels determine the bytes. -/
lemma consumed_of_written {others : List UInt8} {buffer : List UInt16}
    (same : raw12Written packed pixels = raw12Written others buffer) :
    raw12Consumed packed pixels = raw12Consumed others buffer := by
  have equal := same
  rw [raw12Written_eq, raw12Written_eq] at equal
  have count : raw12Groups packed.length pixels.length =
      raw12Groups others.length buffer.length := by
    have lengths := congrArg List.length equal
    rw [length_decoded, length_decoded] at lengths
    omega
  rw [← count] at equal
  rw [raw12Consumed_eq, raw12Consumed_eq, ← count]
  refine List.flatMap_congr fun group mem => ?_
  have inside := List.mem_range.mp mem
  have here := Buffer.flatMap_inj (fun _ => length_decodeGroup _) (fun _ => length_decodeGroup _)
    equal inside
  rw [← encode_decodeGroup (length_sourceGroup inside), here,
    encode_decodeGroup (length_sourceGroup (count ▸ inside))]

end loop

/-- Every sequence of quadruples of 12-bit pixels is decoded from some bytes. -/
lemma written_onto {values : List UInt16} (whole : 4 ∣ values.length)
    (narrow : ∀ pixel ∈ values, pixel.toNat < 4096) :
    ∃ packed, packed.length * 4 = values.length * 6 ∧ raw12Written packed values = values := by
  obtain ⟨count, four⟩ := whole
  rw [Nat.mul_comm] at four
  let group (n : Nat) : List UInt16 := Buffer.read values (n * 4) 4
  have packed_length : ((List.range count).flatMap fun n => encodeGroup (group n)).length =
      count * 6 := by simp [List.length_flatMap]
  refine ⟨(List.range count).flatMap fun n => encodeGroup (group n), by omega, ?_⟩
  have groups : raw12Groups ((List.range count).flatMap fun n => encodeGroup (group n)).length
      values.length = count := by
    rw [packed_length, four]
    change min (count * 6 / 6) (count * 4 / 4) = count
    omega
  rw [raw12Written_eq, groups]
  calc (List.range count).flatMap (fun n => decodeGroup (sourceGroup _ n))
      = (List.range count).flatMap group := by
        refine List.flatMap_congr fun n mem => ?_
        have inside := List.mem_range.mp mem
        have source := Buffer.read_flatMap (fun n => encodeGroup (group n))
          (fun _ => length_encodeGroup _) inside
        have four : (group n).length = 4 := Buffer.length_read (by omega)
        rw [sourceGroup, source, decode_encodeGroup four]
        intro pixel listed
        exact narrow pixel (List.mem_of_mem_drop (List.mem_of_mem_take listed))
    _ = values.take (count * 4) := Buffer.flatMap_read (Nat.le_of_eq four.symm)
    _ = values := by rw [← four, List.take_length]

/-- The second part of a concatenation is decoded behind the first. -/
lemma written_append {first second : List UInt8} (pixels : List UInt16)
    (whole : 6 ∣ first.length) : raw12Written (first ++ second) pixels =
      raw12Written first pixels ++
        raw12Written second (pixels.drop (raw12Written first pixels).length) := by
  obtain ⟨count, six⟩ := whole
  have taken : raw12Groups first.length pixels.length = min count (pixels.length / 4) := by
    rw [six]
    change min (6 * count / 6) (pixels.length / 4) = _
    rw [Nat.mul_div_cancel_left count (by omega)]
  have more : raw12Groups (first ++ second).length pixels.length =
      raw12Groups first.length pixels.length + raw12Groups second.length
        (pixels.drop (raw12Written first pixels).length).length := by
    rw [List.length_drop, raw12Written_eq, length_decoded, taken, List.length_append, six]
    change min ((6 * count + second.length) / 6) (pixels.length / 4) =
      min count (pixels.length / 4) +
        min (second.length / 6) ((pixels.length - min count (pixels.length / 4) * 4) / 4)
    omega
  rw [raw12Written_eq, more, List.range_add, List.flatMap_append, List.flatMap_map]
  congr 1
  · rw [raw12Written_eq]
    refine List.flatMap_congr fun group mem => ?_
    have inside := List.mem_range.mp mem
    rw [taken] at inside
    rw [sourceGroup, Buffer.read_append_left (show group * 6 + 6 ≤ first.length by omega)]
    rfl
  · rw [@raw12Written_eq second]
    refine List.flatMap_congr fun group mem => ?_
    have inside := List.mem_range.mp mem
    -- There is room behind the first part, so it was decoded to its end.
    have all : raw12Groups first.length pixels.length = count := by
      rw [List.length_drop, raw12Written_eq, length_decoded, taken] at inside
      change group < min _ ((pixels.length - min count (pixels.length / 4) * 4) / 4) at inside
      omega
    have place : (count + group) * 6 = first.length + group * 6 := by
      omega
    rw [all, sourceGroup, place, Buffer.read_append_right]
    rfl

/-- The decoder loses nothing: it writes four 12-bit pixels for every six bytes that it reads, its
pixels determine those bytes, every quadruple of 12-bit pixels is reached, and it works group by
group. -/
theorem raw12_lossless :
    (∀ (packed : List UInt8) (pixels : List UInt16),
      (raw12Decode packed pixels).2 = 4 * min (packed.length / 6) (pixels.length / 4) ∧
      (raw12Decode packed pixels).1 = raw12Written packed pixels ++
        pixels.drop (raw12Decode packed pixels).2 ∧
      (raw12Written packed pixels).length = (raw12Decode packed pixels).2 ∧
      (∀ pixel ∈ raw12Written packed pixels, pixel < 4096) ∧
      ∀ (others : List UInt8) (buffer : List UInt16),
        raw12Written packed pixels = raw12Written others buffer →
          raw12Consumed packed pixels = raw12Consumed others buffer) ∧
    (∀ values : List UInt16, 4 ∣ values.length → (∀ pixel ∈ values, pixel < 4096) →
      ∃ packed, packed.length * 4 = values.length * 6 ∧ raw12Written packed values = values) ∧
    ∀ (first second : List UInt8) (pixels : List UInt16), 6 ∣ first.length →
      raw12Written (first ++ second) pixels = raw12Written first pixels ++
        raw12Written second (pixels.drop (raw12Written first pixels).length) := by
  refine ⟨fun packed pixels => ?_, fun values whole narrow => ?_,
    fun first second pixels whole => written_append pixels whole⟩
  · have count : (raw12Decode packed pixels).2 =
        4 * min (packed.length / 6) (pixels.length / 4) := Nat.mul_comm _ _
    refine ⟨count, ?_, length_raw12Written.trans count.symm, ?_, fun _ _ => consumed_of_written⟩
    · rw [raw12Written_eq, raw12Decode_eq, Buffer.write, List.take_zero, List.nil_append,
        length_decoded, Nat.zero_add]
    · intro pixel mem
      rw [raw12Written_eq] at mem
      obtain ⟨group, listed, mem⟩ := List.mem_flatMap.mp mem
      exact UInt16.lt_iff_toNat_lt.mpr
        (decodeGroup_lt (length_sourceGroup (List.mem_range.mp listed)) pixel mem)
  · exact written_onto whole fun pixel mem => UInt16.lt_iff_toNat_lt.mp (narrow pixel mem)

end GoodixSpi.Common
