import GoodixSpi.Lib.Walsh
import GoodixSpi.Chicago.Feature.DescriptorSamples
import Mathlib.Algebra.Order.Chebyshev

/-! The first words of a descriptor. They are computed in blocks whose sums are cut to 16 bits; for
the samples of an image nothing is cut, and together they are the signs of one transform of all
samples. -/

namespace GoodixSpi.Chicago

open CArithmetic Reinterpret DigitRoot Finset

/-! ### Normalized samples -/

lemma integerSquareRoot_isRoot {value : ℕ} (fits : value < 2 ^ 64) :
    IsRoot value (integerSquareRoot value) := by
  obtain ⟨root, run, is⟩ := @squareRootLoop_exact value 32 64 fits le_rfl
  have same : integerSquareRoot64 value = some root := run
  rw [integerSquareRoot, same]
  exact is

lemma integerSquareRoot_lt {value bound : ℕ} (fits : value < 2 ^ 64)
    (small : value < bound * bound) : integerSquareRoot value < bound := by
  have square := (integerSquareRoot_isRoot fits).square
  by_contra above
  exact absurd (Nat.mul_self_le_mul_self (not_lt.mp above)) (by omega)

/-- The value above which samples are clipped. -/
def sampleThreshold (samples : List Int32) : UInt32 :=
  let energy := samples.foldl (fun energy sample =>
    energy + sample.toUInt32.toUInt64 * sample.toUInt32.toUInt64) (0 : UInt64)
  UInt32.ofNat (integerSquareRoot energy.toNat * 0x3333 / 0x10000)

def normalizedSample (threshold : UInt32) (sample : Int32) : Int16 :=
  if sample < threshold.toInt32 then Int16.ofNat (integerSquareRoot sample.toUInt32.toNat)
  else Int16.ofNat (integerSquareRoot threshold.toNat)

lemma normalizeDescriptorSamples_eq (samples : List Int32) : normalizeDescriptorSamples samples =
    samples.map (normalizedSample (sampleThreshold samples)) := rfl

lemma sampleThreshold_le (samples : List Int32) : (sampleThreshold samples).toNat ≤ 0x33330000 := by
  unfold sampleThreshold
  dsimp only
  generalize samples.foldl (fun energy sample =>
    energy + sample.toUInt32.toUInt64 * sample.toUInt32.toUInt64) (0 : UInt64) = energy
  have root := @integerSquareRoot_lt energy.toNat (2 ^ 32) energy.toNat_lt energy.toNat_lt
  rw [UInt32.toNat_ofNat', Nat.mod_eq_of_lt] <;> omega

/-- A root of at most 16 bits. -/
lemma toInt_root {value : ℕ} (small : value ≤ 0x33330000) :
    0 ≤ (Int16.ofNat (integerSquareRoot value)).toInt ∧
      (Int16.ofNat (integerSquareRoot value)).toInt ^ 2 ≤ value := by
  have root := @integerSquareRoot_lt value 0x8000 (by omega) (by omega)
  have square := (@integerSquareRoot_isRoot value (by omega)).square
  have same : (Int16.ofNat (integerSquareRoot value)).toInt = integerSquareRoot value :=
    Int16.toInt_ofNat_of_lt root
  rw [same]
  refine ⟨by omega, ?_⟩
  rw [sq]
  exact_mod_cast square

/-- The square of a normalized sample is not above the sample. -/
lemma normalizedSample_sq {threshold : UInt32} (low : threshold.toNat ≤ 0x33330000) {sample : Int32}
    (nonneg : 0 ≤ sample.toInt) : 0 ≤ (normalizedSample threshold sample).toInt ∧
      (normalizedSample threshold sample).toInt ^ 2 ≤ sample.toInt := by
  have signed : threshold.toInt32.toInt = threshold.toNat := toInt_toInt32 (by omega)
  unfold normalizedSample
  split
  · next below =>
    rw [Int32.lt_iff_toInt_lt, signed] at below
    have unsigned : (sample.toUInt32.toNat : ℤ) = sample.toInt := by
      rw [Int32.toNat_toUInt32_of_le (Int32.le_iff_toInt_le.mpr nonneg)]
      exact Int.toNat_of_nonneg nonneg
    rw [← unsigned]
    exact toInt_root (by omega)
  · next above =>
    rw [Int32.lt_iff_toInt_lt, signed, not_lt] at above
    exact ⟨(toInt_root low).1, (toInt_root low).2.trans above⟩

/-! ### The transform -/

/-- A list of samples as the values of a transform. -/
def sampleValue (values : List Int16) (index : ℕ) : ℤ := (values.getD index 0).toInt

lemma hadamardSign_eq {digits : ℕ} (few : digits ≤ 32) (row : ℕ) {column : ℕ}
    (inside : column < 2 ^ digits) : hadamardSign row column = Walsh.sign digits row column := by
  rw [← Walsh.sign_of_lt (32 - digits) row inside, Nat.add_sub_cancel' few,
    Walsh.sign_eq_bitCount]
  rfl

lemma sum_map_range (count : ℕ) (f : ℕ → ℤ) :
    ((List.range count).map f).sum = ∑ index ∈ range count, f index := by
  induction count with
  | zero => rfl
  | succ count ih => rw [List.sum_range_succ, ih, sum_range_succ]

lemma sum_map_zipIdx (values : List Int16) (f : Int16 × ℕ → ℤ) : (values.zipIdx.map f).sum =
    ∑ index ∈ range values.length, f (values.getD index 0, index) := by
  induction values using List.reverseRecOn with
  | nil => rfl
  | append_singleton values last ih =>
    rw [List.zipIdx_append, List.map_append, List.sum_append, ih, List.length_append,
      List.length_singleton, sum_range_succ]
    congr 1
    · refine sum_congr rfl fun index listed => ?_
      rw [List.getD_append _ _ _ _ (mem_range.mp listed)]
    · simp

/-- The plain transform. -/
lemma hadamardSum_eq {values : List Int16} {digits : ℕ} (few : digits ≤ 32)
    (size : values.length = 2 ^ digits) (bit : ℕ) :
    hadamardSum values bit = Walsh.coefficient digits bit (sampleValue values) := by
  unfold hadamardSum Walsh.coefficient
  rw [sum_map_zipIdx, size]
  refine sum_congr rfl fun column listed => ?_
  dsimp only
  rw [hadamardSign_eq few bit (mem_range.mp listed)]
  exact mul_comm _ _

lemma sampleValue_block (values : List Int16) (block : ℕ) {column : ℕ} (inside : column < 32) :
    sampleValue ((values.drop (block * 32)).take 32) column =
      sampleValue values (block * 32 + column) := by
  unfold sampleValue
  rw [List.getD_eq_getElem?_getD, List.getElem?_take_of_lt inside, List.getElem?_drop,
    ← List.getD_eq_getElem?_getD]

/-- What the 16 bits of a partial sum hold. -/
def BlocksFit (normalized : List Int16) : Prop :=
  ∀ block < 4, ∑ column ∈ range 32, |sampleValue normalized (block * 32 + column)| < 0x8000

lemma toInt_partial {normalized : List Int16} (size : normalized.length = 128)
    (fit : BlocksFit normalized) {block : ℕ} (inside : block < 4) (bit : ℕ) :
    (Int16.ofInt (hadamardSum ((normalized.drop (block * 32)).take 32) bit)).toInt =
      Walsh.coefficient 5 bit fun column => sampleValue normalized (block * 32 + column) := by
  have length : ((normalized.drop (block * 32)).take 32).length = 2 ^ 5 := by
    rw [List.length_take, List.length_drop, size]
    omega
  have same : hadamardSum ((normalized.drop (block * 32)).take 32) bit =
      Walsh.coefficient 5 bit fun column => sampleValue normalized (block * 32 + column) := by
    rw [hadamardSum_eq (by decide) length]
    refine sum_congr rfl fun column listed => ?_
    rw [sampleValue_block normalized block (mem_range.mp listed)]
  have small := (Walsh.abs_coefficient_le 5 bit fun column =>
    sampleValue normalized (block * 32 + column)).trans_lt (fit block inside)
  rw [abs_lt] at small
  rw [same, Int16.toInt_ofInt_of_le (by omega) (by omega)]

lemma blockCoefficients_eq {output block : ℕ} (row : output < 4) (column : block < 4) :
    (blockCoefficients.getD output []).getD block 0 = Walsh.sign 2 output block := by
  interval_cases output <;> interval_cases block <;> rfl

/-- The sum behind one bit is a coefficient of the whole transform. -/
lemma blockSum_eq {normalized : List Int16} (size : normalized.length = 128)
    (fit : BlocksFit normalized) {output bit : ℕ} (row : output < 4) (inner : bit < 32) :
    ((List.range 4).map fun block => (blockCoefficients.getD output []).getD block 0 *
      (Int16.ofInt (hadamardSum ((normalized.drop (block * 32)).take 32) bit)).toInt).sum =
        hadamardSum normalized (output * 32 + bit) := by
  have whole : hadamardSum normalized (output * 32 + bit) =
      Walsh.coefficient (5 + 2) (output * 2 ^ 5 + bit) (sampleValue normalized) :=
    hadamardSum_eq (by decide) size _
  rw [whole, Walsh.coefficient_blocks 5 2 output inner]
  rw [sum_map_range, show (2 ^ 2 : ℕ) = 4 from rfl]
  refine sum_congr rfl fun block listed => ?_
  have inside := mem_range.mp listed
  rw [blockCoefficients_eq row inside, toInt_partial size fit inside]
  rfl

/-! ### The samples of an image -/

section Samples

variable {magnitude : MagnitudePlane} (orientation : OrientationPlane) (centerX centerY : ℤ)
  (featureOrientation : Int16)

lemma sampleValue_normalized (bounded : BoundedMagnitude magnitude) {index : ℕ}
    (inside : index < 128) :
    0 ≤ sampleValue (normalizeDescriptorSamples
        (buildDescriptorSamples magnitude orientation centerX centerY featureOrientation)) index ∧
      sampleValue (normalizeDescriptorSamples
        (buildDescriptorSamples magnitude orientation centerX centerY featureOrientation))
          index ^ 2 ≤
        sampleTotal orientation centerX centerY featureOrientation magnitude index := by
  have sample := toInt_buildDescriptorSamples orientation centerX centerY featureOrientation bounded
    inside
  have length := @length_buildDescriptorSamples magnitude orientation centerX centerY
    featureOrientation
  generalize buildDescriptorSamples magnitude orientation centerX centerY featureOrientation =
    samples at *
  have present : index < samples.length := by omega
  have value : sampleValue (normalizeDescriptorSamples samples) index =
      (normalizedSample (sampleThreshold samples) (samples.getD index 0)).toInt := by
    rw [sampleValue, normalizeDescriptorSamples_eq, List.getD_eq_getElem?_getD, List.getElem?_map,
      List.getD_eq_getElem?_getD, List.getElem?_eq_getElem present]
    rfl
  rw [value, ← sample]
  exact normalizedSample_sq (sampleThreshold_le samples) (by omega)

/-- By the inequality between the two means, the roots of a window are small together. -/
lemma blocksFit (bounded : BoundedMagnitude magnitude) : BlocksFit (normalizeDescriptorSamples
    (buildDescriptorSamples magnitude orientation centerX centerY featureOrientation)) := by
  intro block inside
  have each (column : ℕ) (listed : column ∈ range 32) :=
    sampleValue_normalized orientation centerX centerY featureOrientation bounded
      (show block * 32 + column < 128 by have := mem_range.mp listed; omega)
  generalize normalizeDescriptorSamples
    (buildDescriptorSamples magnitude orientation centerX centerY featureOrientation) =
      normalized at *
  have places : ((List.range 32).map fun column => block * 32 + column).Nodup :=
    List.nodup_range.map fun i j same => Nat.add_left_cancel same
  have total := sum_sampleTotal_le orientation centerX centerY featureOrientation bounded places
  rw [List.map_map] at total
  have squares : ∑ column ∈ range 32, sampleValue normalized (block * 32 + column) ^ 2 ≤
      1089 * 2 ^ 13 := by
    refine (sum_le_sum fun column listed => (each column listed).2).trans ?_
    have whole := Int.ofNat_le.mpr total
    rw [Nat.cast_list_sum, List.map_map] at whole
    rw [← sum_map_range]
    exact whole
  have mean : (∑ column ∈ range 32, sampleValue normalized (block * 32 + column)) ^ 2 ≤
      32 * ∑ column ∈ range 32, sampleValue normalized (block * 32 + column) ^ 2 := by
    have := @sq_sum_le_card_mul_sum_sq _ ℤ _ _ _ _ (range 32)
      fun column => sampleValue normalized (block * 32 + column)
    rwa [card_range] at this
  rw [sum_congr rfl fun column listed => abs_of_nonneg (each column listed).1]
  by_contra large
  have := mul_self_le_mul_self (by norm_num) (not_lt.mp large)
  rw [← sq, ← sq] at this
  omega

end Samples

/-! ### Words of bits -/

lemma testBit_wordOfBits_upTo (bit : ℕ → Bool) {count : ℕ} (few : count ≤ 32) (index : ℕ) :
    ((List.range count).foldl (fun word index =>
      if bit index then word ||| (1 <<< index.toUInt32) else word)
        (0 : UInt32)).toNat.testBit index =
        (decide (index < count) && bit index) := by
  induction count with
  | zero => simp
  | succ count ih =>
    have one : ((1 : UInt32) <<< count.toUInt32).toNat = 2 ^ count := by
      have place : count.toUInt32.toNat = count := by
        rw [Nat.toUInt32_eq, UInt32.toNat_ofNat', Nat.mod_eq_of_lt (by omega)]
      rw [UInt32.toNat_shiftLeft, place, Nat.mod_eq_of_lt few, Nat.shiftLeft_eq]
      exact (Nat.mod_eq_of_lt (by
        rw [show UInt32.toNat 1 = 1 from rfl, Nat.one_mul]
        exact Nat.pow_lt_pow_right (by decide) few)).trans (Nat.one_mul _)
    rw [List.range_succ, List.foldl_append, List.foldl_cons, List.foldl_nil]
    have before := ih (by omega)
    generalize (List.range count).foldl (fun word index =>
      if bit index then word ||| (1 <<< index.toUInt32) else word) (0 : UInt32) = word at *
    have next : (if bit count then word ||| (1 <<< count.toUInt32) else word).toNat.testBit index =
        (word.toNat.testBit index || (decide (count = index) && bit count)) := by
      cases bit count with
      | false => simp
      | true =>
        rw [if_pos rfl, UInt32.toNat_or, one, Nat.testBit_or, Nat.testBit_two_pow, Bool.and_true]
    rw [next, before]
    by_cases same : count = index
    · subst same
      simp
    · rw [decide_eq_false same, Bool.false_and, Bool.or_false]
      congr 1
      exact decide_eq_decide.mpr (by omega)

lemma testBit_wordOfBits (bit : ℕ → Bool) {index : ℕ} (inside : index < 32) :
    (wordOfBits bit).toNat.testBit index = bit index := by
  rw [wordOfBits, testBit_wordOfBits_upTo bit le_rfl, decide_eq_true inside, Bool.true_and]

/-! ### Where the words are kept -/

namespace FeatureRecord

lemma byteAt_setByte (record : FeatureRecord) {offset : ℕ} (low : 0x0c ≤ offset)
    (high : offset < 0x3c) (value : UInt8) {place : ℕ} (inside : 0x0c ≤ place) :
    (record.setByte offset value).byteAt place =
      if place = offset then value else record.byteAt place := by
  unfold byteAt setByte
  rw [Vector.toList_setIfInBounds, List.getD_eq_getElem?_getD, List.getElem?_set]
  by_cases same : place = offset
  · subst same
    rw [if_pos rfl, if_pos rfl, if_pos (by rw [Vector.length_toList]; omega)]
    rfl
  · rw [if_neg (by omega), if_neg same, ← List.getD_eq_getElem?_getD]

lemma byteAt_writeBytes_outside (record : FeatureRecord) {offset : ℕ} (low : 0x0c ≤ offset)
    {bytes : List UInt8} (high : offset + bytes.length ≤ 0x3c) {place : ℕ} (inside : 0x0c ≤ place)
    (outside : place < offset ∨ offset + bytes.length ≤ place) :
    (writeBytes record offset bytes).byteAt place = record.byteAt place := by
  unfold writeBytes
  induction bytes using List.reverseRecOn with
  | nil => rfl
  | append_singleton bytes last ih =>
    rw [List.length_append, List.length_singleton] at high outside
    rw [List.zipIdx_append, List.foldl_append]
    simp only [List.zipIdx_singleton, List.foldl_cons, List.foldl_nil]
    rw [byteAt_setByte _ (by omega) (by omega) _ inside, if_neg (by omega)]
    exact ih (by omega) (by omega)

lemma byteAt_writeBytes_inside (record : FeatureRecord) {offset : ℕ} (low : 0x0c ≤ offset)
    {bytes : List UInt8} (high : offset + bytes.length ≤ 0x3c) {index : ℕ}
    (inside : index < bytes.length) :
    (writeBytes record offset bytes).byteAt (offset + index) = bytes.getD index 0 := by
  unfold writeBytes
  induction bytes using List.reverseRecOn with
  | nil => exact absurd inside (Nat.not_lt_zero index)
  | append_singleton bytes last ih =>
    rw [List.length_append, List.length_singleton] at high inside
    rw [List.zipIdx_append, List.foldl_append]
    simp only [List.zipIdx_singleton, List.foldl_cons, List.foldl_nil]
    rw [byteAt_setByte _ (by omega) (by omega) _ (by omega)]
    by_cases here : index = bytes.length
    · subst here
      simp
    · rw [if_neg (by omega), List.getD_append _ _ _ _ (by omega)]
      exact ih (by omega) (by omega)

/-- A word that was written is read back. -/
lemma descriptorWord_eq (record : FeatureRecord) {offset : ℕ} (fits : offset + 4 ≤ 48)
    {word : UInt32} (bytes : ∀ index < 4, record.byteAt (0x0c + offset + index) =
      (LittleEndian.bytes word).getD index 0) : record.descriptorWord offset = word := by
  unfold descriptorWord
  have same : (record.descriptor.toList.drop offset).take 4 = LittleEndian.bytes word := by
    apply List.ext_getElem?
    intro index
    rw [List.getElem?_take]
    split
    · next inside =>
      have byte := bytes index inside
      unfold byteAt at byte
      rw [show 0x0c + offset + index - 0x0c = offset + index by omega, List.getD_eq_getElem?_getD,
        List.getD_eq_getElem?_getD, List.getElem?_eq_getElem
          (by rw [Vector.length_toList]; omega), List.getElem?_eq_getElem
          (by rw [LittleEndian.length_bytes]; exact inside)] at byte
      rw [List.getElem?_drop, List.getElem?_eq_getElem (by rw [Vector.length_toList]; omega),
        List.getElem?_eq_getElem (by rw [LittleEndian.length_bytes]; exact inside)]
      exact congrArg some byte
    · next outside =>
      rw [List.getElem?_eq_none (by rw [LittleEndian.length_bytes]; omega)]
  rw [same, LittleEndian.word_bytes]

end FeatureRecord

open FeatureRecord

/-- The words of the first pass. -/
def firstPassBytes (normalized : List Int16) : List UInt8 :=
  ((List.range 4).flatMap fun output => LittleEndian.bytes (blockTransform normalized output)) ++
    LittleEndian.bytes (wordOfBits fun bit =>
      decide (descriptorMedian normalized < normalized.getD (bit * 4 + 1) 0)) ++ List.replicate 4 0

lemma firstPassBytes_getD (normalized : List Int16) {output index : ℕ} (row : output < 4)
    (inside : index < 4) : (firstPassBytes normalized).getD (4 * output + index) 0 =
      (LittleEndian.bytes (blockTransform normalized output)).getD index 0 := by
  unfold firstPassBytes
  rw [List.append_assoc]
  generalize blockTransform normalized = word
  generalize LittleEndian.bytes (wordOfBits _) ++ _ = rest
  interval_cases output <;> interval_cases index <;> rfl

/-- The second pass leaves the words of the first one. -/
lemma descriptorWord_buildDescriptor (magnitude : MagnitudePlane) (orientation : OrientationPlane)
    (aux : FeatureAux) (record : FeatureRecord) {output : ℕ} (row : output < 4) :
    (buildDescriptor magnitude orientation aux record).descriptorWord (4 + 4 * output) =
      blockTransform (normalizeDescriptorSamples (buildDescriptorSamples magnitude orientation
        aux.x.toInt aux.y.toInt record.orientation)) output := by
  refine descriptorWord_eq _ (by omega) fun index inside => ?_
  unfold buildDescriptor encodeDescriptorSecondPass
  dsimp only
  generalize normalizeDescriptorSamples (buildDescriptorSamples magnitude orientation aux.x.toInt
    aux.y.toInt record.orientation) = normalized
  rw [byteAt_writeBytes_outside _ (by decide) (by simp) (by omega) (by omega),
    byteAt_setByte _ (by decide) (by decide) _ (by omega), if_neg (by omega)]
  have first : encodeDescriptorFirstPass normalized record =
      writeBytes record 0x10 (firstPassBytes normalized) := rfl
  have length : (firstPassBytes normalized).length = 24 := rfl
  rw [first, show 0x0c + (4 + 4 * output) + index = 0x10 + (4 * output + index) by omega,
    byteAt_writeBytes_inside _ (by decide) (by rw [length]; decide) (by rw [length]; omega),
    firstPassBytes_getD normalized row inside]

/-- Together the first four words of a descriptor are the signs of the transform of its 128 samples,
whatever the gradients were built from. -/
theorem descriptor_words_transform (input : Vector ℤ pixels) (aux : FeatureAux)
    (record : FeatureRecord) (output : Fin 4) (bit : Fin 32) :
    ((buildDescriptor (buildGradients input).1 (buildGradients input).2 aux
        record).descriptorWord (4 + 4 * output)).toNat.testBit bit =
      decide (0 < hadamardSum (normalizeDescriptorSamples (buildDescriptorSamples
        (buildGradients input).1 (buildGradients input).2 aux.x.toInt aux.y.toInt
        record.orientation)) (output * 32 + bit)) := by
  have fit := blocksFit (buildGradients input).2 aux.x.toInt aux.y.toInt record.orientation
    (buildGradients_bounded input)
  have length : (normalizeDescriptorSamples (buildDescriptorSamples (buildGradients input).1
      (buildGradients input).2 aux.x.toInt aux.y.toInt record.orientation)).length = 128 := by
    rw [normalizeDescriptorSamples_eq, List.length_map, length_buildDescriptorSamples]
  rw [descriptorWord_buildDescriptor _ _ aux record output.isLt, blockTransform,
    testBit_wordOfBits _ bit.isLt, blockSum_eq length fit output.isLt bit.isLt]

end GoodixSpi.Chicago
