import GoodixSpi.Chicago.Packed.Cursor
import Mathlib.Data.List.GetD
import Mathlib.Tactic.IntervalCases

/-! The 32-byte packed record. It keeps the coordinates, the orientation and thirty-two
of the forty-eight descriptor bytes; the strength, the foreground class and the other
descriptor bytes are lost. -/

namespace GoodixSpi.Chicago

def packedRecordBytes : Nat := 32

def packedOrientation (orientation : Int16) : UInt8 :=
  if 0 ≤ orientation.toInt then UInt8.ofNat (orientation.toInt.toNat / 0x100)
  else UInt8.ofNat ((-orientation.toInt).toNat % 0x10000 / 0x100 + 0x80)

def unpackedOrientation (orientation : UInt8) : Int16 :=
  if orientation < 0x80 then Int16.ofInt (orientation.toNat * 0x100)
  else Int16.ofInt (-((orientation.toNat - 0x80) * 0x100))

def packedCoordinate (record : FeatureRecord) : UInt32 :=
  (UInt32.ofNat record.unsignedX <<< 16) ||| (UInt32.ofNat record.unsignedY <<< 4) |||
    (packedOrientation record.orientation).toUInt32

/-- `swap[index]`. -/
def swapped (index : Nat) : Bool :=
  [false, true, true, false, true, false, false, true].getD index false

def packedDescriptorPair (record : FeatureRecord) (index : Nat) : List UInt8 :=
  let a := record.descriptor.toList.getD (4 + index) 0
  let b := record.descriptor.toList.getD (12 + index) 0
  let first := ((a ^^^ b) &&& 0x0f) ^^^ b
  let second := ((a ^^^ b) &&& 0x0f) ^^^ a
  if swapped index then [second, first] else [first, second]

def packedAppendRecord (record : FeatureRecord) : List UInt8 :=
  packedAppendU32 (packedCoordinate record) ++
    (List.range 8).flatMap (packedDescriptorPair record) ++
    (record.descriptor.toList.drop 20).take 4 ++ (record.descriptor.toList.drop 28).take 8

/-- The two packed bytes of an index, swapped back. -/
def unpackedPair (packed : List UInt8) (index : Nat) : UInt8 × UInt8 :=
  let first := packed.getD (4 + index * 2) 0
  let second := packed.getD (5 + index * 2) 0
  if swapped index then (second, first) else (first, second)

def unpackedDescriptorByte (packed : List UInt8) (index : Nat) : UInt8 :=
  if index = 0 then 2
  else if 4 ≤ index ∧ index < 12 then
    let pair := unpackedPair packed (index - 4)
    (pair.2 &&& 0xf0) ||| (pair.1 &&& 0x0f)
  else if 12 ≤ index ∧ index < 20 then
    let pair := unpackedPair packed (index - 12)
    (pair.1 &&& 0xf0) ||| (pair.2 &&& 0x0f)
  else if 20 ≤ index ∧ index < 24 then packed.getD index 0
  else if 28 ≤ index ∧ index < 36 then packed.getD (index - 4) 0
  else 0

def packedDecodeRecord (packed : List UInt8) : FeatureRecord :=
  let coordinate := LittleEndian.word (packed.take 4)
  { foreground := 0
    refinedX := ((coordinate >>> 16) &&& 0xfff0).toUInt16.toInt16
    refinedY := ((coordinate >>> 4) &&& 0xfff0).toUInt16.toInt16
    orientation := unpackedOrientation (coordinate &&& 0xff).toUInt8
    strength := 0
    descriptor := Vector.ofFn fun index => unpackedDescriptorByte packed index }

/-- What a record becomes on its way through the packed form. -/
def reloadRecord (record : FeatureRecord) : FeatureRecord :=
  packedDecodeRecord (packedAppendRecord record)

lemma length_packedDescriptorPair (record : FeatureRecord) (index : Nat) :
    (packedDescriptorPair record index).length = 2 := by
  unfold packedDescriptorPair
  dsimp only
  split <;> rfl

@[simp] lemma length_packedAppendRecord (record : FeatureRecord) :
    (packedAppendRecord record).length = packedRecordBytes := by
  have pairs : ((List.range 8).flatMap (packedDescriptorPair record)).length = 16 := by
    rw [List.length_flatMap]
    simp only [length_packedDescriptorPair]
    rfl
  simp only [packedAppendRecord, List.length_append, pairs, List.length_take, List.length_drop,
    Vector.length_toList, length_packedAppendU32]
  rfl

/-! ### The descriptor -/

/-- Descriptor bytes that the packed form keeps. -/
def keptByte (index : Nat) : Bool :=
  (4 ≤ index && index < 24) || (28 ≤ index && index < 36)

/-- One nibble of each of two bytes, taken apart and put together again. -/
lemma nibbles_first (a b : UInt8) :
    ((((a ^^^ b) &&& 0x0f) ^^^ a) &&& 0xf0) ||| ((((a ^^^ b) &&& 0x0f) ^^^ b) &&& 0x0f) = a := by
  apply UInt8.toBitVec_inj.mp
  apply BitVec.eq_of_getLsbD_eq
  intro i hi
  interval_cases i <;> simp

lemma nibbles_second (a b : UInt8) :
    ((((a ^^^ b) &&& 0x0f) ^^^ b) &&& 0xf0) ||| ((((a ^^^ b) &&& 0x0f) ^^^ a) &&& 0x0f) = b := by
  have flipped := nibbles_first b a
  rwa [UInt8.xor_comm b a] at flipped

def descriptorByte (record : FeatureRecord) (index : Nat) : UInt8 :=
  record.descriptor.toList.getD index 0

lemma unpackedPair_packed (record : FeatureRecord) {index : Nat} (h : index < 8) :
    unpackedPair (packedAppendRecord record) index =
      (let a := descriptorByte record (4 + index)
       let b := descriptorByte record (12 + index)
       (((a ^^^ b) &&& 0x0f) ^^^ b, ((a ^^^ b) &&& 0x0f) ^^^ a)) := by
  interval_cases index <;> rfl

lemma packed_tail (record : FeatureRecord) :
    (packedAppendRecord record).drop 20 =
      (record.descriptor.toList.drop 20).take 4 ++ (record.descriptor.toList.drop 28).take 8 := by
  have head : (packedAppendU32 (packedCoordinate record) ++
      (List.range 8).flatMap (packedDescriptorPair record)).length = 20 := rfl
  rw [packedAppendRecord, List.append_assoc (_ ++ _), List.drop_append, head, Nat.sub_self,
    List.drop_eq_nil_of_le (Nat.le_of_eq head), List.nil_append, List.drop_zero]

lemma getD_drop (bytes : List UInt8) (start index : Nat) (h : start ≤ index) :
    bytes.getD index 0 = (bytes.drop start).getD (index - start) 0 := by
  simp only [List.getD_eq_getElem?_getD, List.getElem?_drop]
  rw [Nat.add_sub_of_le h]

lemma getD_take (bytes : List UInt8) {count index : Nat} (h : index < count) :
    (bytes.take count).getD index 0 = bytes.getD index 0 := by
  simp only [List.getD_eq_getElem?_getD, List.getElem?_take, if_pos h]

lemma packed_getD_low (record : FeatureRecord) {index : Nat} (low : 20 ≤ index) (high : index < 24) :
    (packedAppendRecord record).getD index 0 = descriptorByte record index := by
  have first : ((record.descriptor.toList.drop 20).take 4).length = 4 := by simp
  rw [getD_drop _ 20 index low, packed_tail, List.getD_append _ _ _ _ (by omega),
    getD_take _ (by omega), ← getD_drop _ 20 index low]
  rfl

lemma packed_getD_high (record : FeatureRecord) {index : Nat} (low : 28 ≤ index)
    (high : index < 36) :
    (packedAppendRecord record).getD (index - 4) 0 = descriptorByte record index := by
  have first : ((record.descriptor.toList.drop 20).take 4).length = 4 := by simp
  have shift : index - 4 - 20 - 4 = index - 28 := by omega
  rw [getD_drop _ 20 (index - 4) (by omega), packed_tail,
    List.getD_append_right _ _ _ _ (by omega), first, shift, getD_take _ (by omega),
    ← getD_drop _ 28 index low]
  rfl

lemma unpackedDescriptorByte_packed (record : FeatureRecord) {index : Nat}
    (kept : keptByte index = true) :
    unpackedDescriptorByte (packedAppendRecord record) index = descriptorByte record index := by
  simp only [keptByte, Bool.or_eq_true, Bool.and_eq_true, decide_eq_true_eq] at kept
  unfold unpackedDescriptorByte
  rw [if_neg (by omega)]
  split
  · next h =>
    have shift : 4 + (index - 4) = index := by omega
    simp only [unpackedPair_packed record (show index - 4 < 8 by omega), nibbles_first, shift]
  · split
    · next h =>
      have shift : 12 + (index - 12) = index := by omega
      simp only [unpackedPair_packed record (show index - 12 < 8 by omega), nibbles_second, shift]
    · split
      · next h => exact packed_getD_low record h.1 h.2
      · rw [if_pos (by omega)]
        exact packed_getD_high record (by omega) (by omega)

lemma descriptorByte_reload (record : FeatureRecord) {index : Nat} (kept : keptByte index = true) :
    descriptorByte (reloadRecord record) index = descriptorByte record index := by
  have inside : index < 48 := by
    simp only [keptByte, Bool.or_eq_true, Bool.and_eq_true, decide_eq_true_eq] at kept
    omega
  rw [← unpackedDescriptorByte_packed record kept]
  simp [descriptorByte, reloadRecord, packedDecodeRecord, inside]

/-! ### Coordinate and orientation -/

lemma and_fff0 (n : Nat) : n &&& 0xfff0 = n / 0x10 % 0x1000 * 0x10 := by
  apply Nat.eq_of_testBit_eq
  intro i
  have mask : (0xfff0 : Nat) = 0xfff * 2 ^ 4 := by decide
  have ones : (0xfff : Nat) = 2 ^ 12 - 1 := by decide
  have sixteen : (0x10 : Nat) = 2 ^ 4 := by decide
  have window : (0x1000 : Nat) = 2 ^ 12 := by decide
  rw [Nat.testBit_and, mask, ones, sixteen, window, Nat.testBit_mul_two_pow,
    Nat.testBit_mul_two_pow, Nat.testBit_two_pow_sub_one, Nat.testBit_mod_two_pow,
    Nat.testBit_div_two_pow]
  by_cases h : 4 ≤ i
  · have shift : i - 4 + 4 = i := by omega
    simp only [h, decide_true, Bool.true_and, shift, Bool.and_comm]
  · simp [h]

lemma unsignedX_lt (record : FeatureRecord) : record.unsignedX < 0x10000 :=
  record.refinedX.toUInt16.toNat_lt

lemma unsignedY_lt (record : FeatureRecord) : record.unsignedY < 0x10000 :=
  record.refinedY.toUInt16.toNat_lt

/-- The three fields of the coordinate word do not overlap. -/
lemma toNat_packedCoordinate {record : FeatureRecord} (prepared : record.Prepared) :
    (packedCoordinate record).toNat = record.unsignedX * 0x10000 + record.unsignedY * 0x10 +
      (packedOrientation record.orientation).toNat := by
  have x := unsignedX_lt record
  have y := unsignedY_lt record
  have o := (packedOrientation record.orientation).toNat_lt
  obtain ⟨x', hx⟩ : ∃ x', record.unsignedX = 0x10 * x' := ⟨_, (Nat.mul_div_cancel'
    (Nat.dvd_of_mod_eq_zero prepared.x)).symm⟩
  obtain ⟨y', hy⟩ : ∃ y', record.unsignedY = 0x10 * y' := ⟨_, (Nat.mul_div_cancel'
    (Nat.dvd_of_mod_eq_zero prepared.y)).symm⟩
  have high : (UInt32.ofNat record.unsignedX <<< 16).toNat = 2 ^ 20 * x' := by
    simp only [UInt32.toNat_shiftLeft, UInt32.toNat_ofNat', UInt32.reduceToNat, Nat.reduceMod,
      Nat.shiftLeft_eq, Nat.reducePow]
    omega
  have middle : (UInt32.ofNat record.unsignedY <<< 4).toNat = 2 ^ 8 * y' := by
    simp only [UInt32.toNat_shiftLeft, UInt32.toNat_ofNat', UInt32.reduceToNat, Nat.reduceMod,
      Nat.shiftLeft_eq, Nat.reducePow]
    omega
  have low : (packedOrientation record.orientation).toNat < 2 ^ 8 := o
  have joined := Nat.two_pow_add_eq_or_of_lt (i := 20) (b := 2 ^ 8 * y') (by omega) x'
  have whole := Nat.two_pow_add_eq_or_of_lt low (2 ^ 12 * x' + y')
  have both : 2 ^ 20 * x' + 2 ^ 8 * y' = 2 ^ 8 * (2 ^ 12 * x' + y') := by omega
  rw [packedCoordinate, UInt32.toNat_or, UInt32.toNat_or, high, middle, ← joined, both,
    UInt8.toNat_toUInt32, ← whole]
  omega

lemma unpackedOrientation_packed {orientation : Int16}
    (h : ∃ turn : Int, -0x7f ≤ turn ∧ turn ≤ 0x7f ∧ orientation.toInt = turn * 0x100) :
    unpackedOrientation (packedOrientation orientation) = orientation := by
  obtain ⟨turn, low, high, value⟩ := h
  have sign_bit : (0x80 : UInt8).toNat = 0x80 := rfl
  unfold unpackedOrientation
  by_cases sign : 0 ≤ orientation.toInt
  · have byte : (packedOrientation orientation).toNat = turn.toNat := by
      rw [packedOrientation, if_pos sign, UInt8.toNat_ofNat']
      omega
    have small : packedOrientation orientation < 0x80 := by
      rw [UInt8.lt_iff_toNat_lt, byte, sign_bit]
      omega
    rw [if_pos small, byte]
    have back : ((turn.toNat : Int) * 0x100) = orientation.toInt := by omega
    rw [back, Int16.ofInt_toInt]
  · have byte : (packedOrientation orientation).toNat = (-turn).toNat + 0x80 := by
      rw [packedOrientation, if_neg sign, UInt8.toNat_ofNat']
      omega
    have large : ¬packedOrientation orientation < 0x80 := by
      rw [UInt8.lt_iff_toNat_lt, byte, sign_bit]
      omega
    rw [if_neg large, byte]
    have back : -((((-turn).toNat + 0x80 : Nat) : Int) - 0x80) * 0x100 = orientation.toInt := by
      omega
    rw [← Int.neg_mul, back, Int16.ofInt_toInt]

lemma reload_word (record : FeatureRecord) :
    LittleEndian.word ((packedAppendRecord record).take 4) = packedCoordinate record :=
  LittleEndian.word_bytes (packedCoordinate record)

section Prepared

variable {record : FeatureRecord} (prepared : record.Prepared)
include prepared

lemma reload_refinedX : (reloadRecord record).refinedX = record.refinedX := by
  have x := unsignedX_lt record
  have y := unsignedY_lt record
  have o := (packedOrientation record.orientation).toNat_lt
  have aligned := prepared.x
  have alignedY := prepared.y
  have whole := toNat_packedCoordinate prepared
  have unsigned : (((packedCoordinate record) >>> 16) &&& 0xfff0).toUInt16 =
      record.refinedX.toUInt16 := by
    apply UInt16.toNat_inj.mp
    rw [UInt32.toNat_toUInt16, UInt32.toNat_and, UInt32.toNat_shiftRight, whole]
    simp only [UInt32.reduceToNat, Nat.reduceMod, Nat.shiftRight_eq_div_pow, Nat.reducePow, and_fff0]
    have shifted : (record.unsignedX * 65536 + record.unsignedY * 16 +
        (packedOrientation record.orientation).toNat) / 65536 / 16 = record.unsignedX / 16 := by
      omega
    rw [shifted]
    show _ = record.unsignedX
    omega
  have loaded : (reloadRecord record).refinedX =
      (((packedCoordinate record) >>> 16) &&& 0xfff0).toUInt16.toInt16 := by
    simp only [reloadRecord, packedDecodeRecord, reload_word]
  rw [loaded, unsigned]
  rfl

lemma reload_refinedY : (reloadRecord record).refinedY = record.refinedY := by
  have x := unsignedX_lt record
  have y := unsignedY_lt record
  have o := (packedOrientation record.orientation).toNat_lt
  have alignedX := prepared.x
  have aligned := prepared.y
  have whole := toNat_packedCoordinate prepared
  have unsigned : (((packedCoordinate record) >>> 4) &&& 0xfff0).toUInt16 =
      record.refinedY.toUInt16 := by
    apply UInt16.toNat_inj.mp
    rw [UInt32.toNat_toUInt16, UInt32.toNat_and, UInt32.toNat_shiftRight, whole]
    simp only [UInt32.reduceToNat, Nat.reduceMod, Nat.shiftRight_eq_div_pow, Nat.reducePow, and_fff0]
    show _ = record.unsignedY
    omega
  have loaded : (reloadRecord record).refinedY =
      (((packedCoordinate record) >>> 4) &&& 0xfff0).toUInt16.toInt16 := by
    simp only [reloadRecord, packedDecodeRecord, reload_word]
  rw [loaded, unsigned]
  rfl

lemma reload_orientation : (reloadRecord record).orientation = record.orientation := by
  have whole := toNat_packedCoordinate prepared
  have o := (packedOrientation record.orientation).toNat_lt
  have aligned := prepared.y
  have byte : ((packedCoordinate record) &&& 0xff).toUInt8 =
      packedOrientation record.orientation := by
    apply UInt8.toNat_inj.mp
    rw [UInt32.toNat_toUInt8, UInt32.toNat_and, whole]
    have mask : (255 : UInt32).toNat = 2 ^ 8 - 1 := by decide
    rw [mask, Nat.and_two_pow_sub_one_eq_mod]
    simp only [Nat.reducePow]
    omega
  have loaded : (reloadRecord record).orientation =
      unpackedOrientation ((packedCoordinate record) &&& 0xff).toUInt8 := by
    simp only [reloadRecord, packedDecodeRecord, reload_word]
  rw [loaded, byte, unpackedOrientation_packed prepared.orientation]

lemma reload_prepared : (reloadRecord record).Prepared where
  x := by
    rw [FeatureRecord.unsignedX, reload_refinedX prepared]
    exact prepared.x
  y := by
    rw [FeatureRecord.unsignedY, reload_refinedY prepared]
    exact prepared.y
  orientation := by
    rw [reload_orientation prepared]
    exact prepared.orientation

/-- What the packed form keeps, it keeps exactly: a reloaded record packs to the same
bytes. -/
theorem packed_reload : packedAppendRecord (reloadRecord record) = packedAppendRecord record := by
  have coordinate : packedCoordinate (reloadRecord record) = packedCoordinate record := by
    simp only [packedCoordinate, FeatureRecord.unsignedX, FeatureRecord.unsignedY,
      reload_refinedX prepared, reload_refinedY prepared, reload_orientation prepared]
  have pairs : (List.range 8).flatMap (packedDescriptorPair (reloadRecord record)) =
      (List.range 8).flatMap (packedDescriptorPair record) := by
    simp only [List.flatMap_def]
    refine congrArg List.flatten (List.map_congr_left fun index h => ?_)
    have below := List.mem_range.mp h
    have a := descriptorByte_reload record
      (show keptByte (4 + index) = true by simp [keptByte]; omega)
    have b := descriptorByte_reload record
      (show keptByte (12 + index) = true by simp [keptByte]; omega)
    unfold descriptorByte at a b
    simp only [packedDescriptorPair, a, b]
  have window : ∀ start count, (∀ index, start ≤ index → index < start + count →
      keptByte index = true) →
      ((reloadRecord record).descriptor.toList.drop start).take count =
        (record.descriptor.toList.drop start).take count := by
    intro start count kept
    refine List.ext_getElem (by simp) fun index h _ => ?_
    have byte := descriptorByte_reload record (kept (start + index) (by omega)
      (by simp at h; omega))
    simp only [List.length_take, List.length_drop, Vector.length_toList] at h
    have inside : start + index < 48 := by omega
    simpa [descriptorByte, inside] using byte
  rw [packedAppendRecord, coordinate, pairs, window 20 4, window 28 8]
  · rfl
  · intro index _ _
    simp [keptByte]
    omega
  · intro index _ _
    simp [keptByte]
    omega

end Prepared

end GoodixSpi.Chicago
