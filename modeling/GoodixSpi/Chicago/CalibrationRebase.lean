import GoodixSpi.Chicago.PreparedFrame

/-! Rebasing a calibration payload: every byte of the rebased payload, and what follows for rebasing
it again. -/

namespace GoodixSpi.Chicago.Calibration

/-- The offset map of a payload. -/
def storedOffsets (payload : List UInt8) : Plane :=
  Vector.ofFn fun pixel =>
    readLe16 (Buffer.read payload (offsetMapOffset + (pixel : ℕ) * 2) 2)

def mapBytes (values : Plane) : List UInt8 :=
  (List.range pixels).flatMap fun pixel => LittleEndian.halfBytes (pixelAt values pixel)

/-- The checksum of an offset map. -/
def crcBytes (values : Plane) : List UInt8 :=
  LittleEndian.bytes (calibrationMapCrc32 (mapBytes values))

/-- An index of the offset map or of its checksum. -/
def Rebased (index : ℕ) : Prop :=
  (offsetMapCrcOffset ≤ index ∧ index < offsetMapCrcOffset + 4) ∨
    (offsetMapOffset ≤ index ∧ index < offsetMapOffset + calibrationMapBytes)

section

variable {payload : List UInt8} (long : payload.length = calibrationPayloadLen)
include long

lemma setImageBase_eq (imageBase : Plane) : setImageBase payload imageBase =
    Buffer.write (Buffer.write payload offsetMapOffset (mapBytes (prepareFrame imageBase)))
      offsetMapCrcOffset (crcBytes (prepareFrame imageBase)) := by
  have length : (mapBytes (prepareFrame imageBase)).length = calibrationMapBytes :=
    length_mapBytes _
  have fits : offsetMapOffset + (mapBytes (prepareFrame imageBase)).length ≤ payload.length := by
    rw [length, long]
    decide
  have block := Buffer.read_write_self fits
  rw [length] at block
  rw [setImageBase, writeMap_eq _ (by rw [long]; decide)]
  rw [← mapBytes, block]
  rfl

/-- Every byte of a rebased payload. -/
lemma getElem?_setImageBase (imageBase : Plane) (index : ℕ) :
    (setImageBase payload imageBase)[index]? =
      if offsetMapCrcOffset ≤ index ∧ index < offsetMapCrcOffset + 4 then
        (crcBytes (prepareFrame imageBase))[index - offsetMapCrcOffset]?
      else if offsetMapOffset ≤ index ∧ index < offsetMapOffset + calibrationMapBytes then
        (mapBytes (prepareFrame imageBase))[index - offsetMapOffset]?
      else payload[index]? := by
  have length : (mapBytes (prepareFrame imageBase)).length = calibrationMapBytes :=
    length_mapBytes _
  have four : (crcBytes (prepareFrame imageBase)).length = 4 := rfl
  have fits : offsetMapOffset + (mapBytes (prepareFrame imageBase)).length ≤ payload.length := by
    rw [length, long]
    decide
  rw [setImageBase_eq long, Buffer.getElem?_write (by
      rw [Buffer.length_write fits, long, four]
      decide),
    Buffer.getElem?_write fits, four, length]

/-- Only the prepared base matters. -/
lemma setImageBase_congr {first second : Plane}
    (same : prepareFrame first = prepareFrame second) :
    setImageBase payload first = setImageBase payload second := by
  rw [setImageBase_eq long, setImageBase_eq long, same]

/-- The second base replaces the first one. -/
lemma setImageBase_setImageBase (first second : Plane) :
    setImageBase (setImageBase payload first) second = setImageBase payload second := by
  refine List.ext_getElem? fun index => ?_
  rw [getElem?_setImageBase (length_setImageBase first long), getElem?_setImageBase long,
    getElem?_setImageBase long]
  split
  · rfl
  split
  · rfl
  · rfl

lemma storedOffsets_setImageBase (imageBase : Plane) :
    storedOffsets (setImageBase payload imageBase) = prepareFrame imageBase := by
  refine Vector.ext fun pixel inside => ?_
  rw [storedOffsets, Vector.getElem_ofFn, read_setImageBase imageBase long inside,
    pixelAt_eq _ inside]

end

lemma rebase_of_valid {payload : List UInt8} (valid : Valid payload) (imageBase : Plane) :
    rebase payload imageBase = .ok (setImageBase payload imageBase) := by
  rw [rebase, validatePayload_ok_iff.mpr valid]
  rfl

/-- A rebased payload is valid again. -/
lemma setImageBase_valid {payload : List UInt8} (valid : Valid payload) (imageBase : Plane) :
    Valid (setImageBase payload imageBase) where
  length := length_setImageBase imageBase valid.length
  gain := by
    rw [read_setImageBase_apart imageBase valid.length (by decide) (by decide),
      read_setImageBase_apart imageBase valid.length (by decide) (by decide), valid.gain]
  offset := setImageBase_crc imageBase valid.length

lemma storedOffsets_generate (imageBase : Plane) :
    storedOffsets (generate imageBase) = prepareFrame imageBase := by
  refine Vector.ext fun pixel inside => ?_
  have count := offsets
  rw [storedOffsets, Vector.getElem_ofFn, generate, read_assemble _ _ _ (by omega),
    read_setImageBase imageBase (length_assembledMaps _) inside, pixelAt_eq _ inside]

/-- What rebasing does to a valid payload. -/
theorem rebase_laws {payload : List UInt8} (valid : validatePayload payload = .ok ())
    (first second : Plane) :
    validatePayload (generate first) = .ok () ∧
    storedOffsets (generate first) = prepareRaw first ∧
    ∃ rebased, rebase payload first = .ok rebased ∧
      validatePayload rebased = .ok () ∧
      rebased.length = payload.length ∧
      (∀ index, ¬Rebased index → rebased[index]? = payload[index]?) ∧
      rebase rebased second = rebase payload second ∧
      rebase rebased (storedOffsets rebased) = .ok rebased ∧
      storedOffsets rebased = prepareRaw first := by
  have accepted := validatePayload_ok_iff.mp valid
  have long := accepted.length
  have again := setImageBase_valid accepted first
  have stored := storedOffsets_setImageBase long first
  refine ⟨validatePayload_ok_iff.mpr (assemble_valid _ _ _),
    by rw [storedOffsets_generate, prepareRaw_eq_prepareFrame],
    setImageBase payload first, rebase_of_valid accepted first, validatePayload_ok_iff.mpr again,
    again.length.trans long.symm, fun index outside => ?_, ?_, ?_,
    by rw [stored, prepareRaw_eq_prepareFrame]⟩
  · rw [Rebased, not_or] at outside
    rw [getElem?_setImageBase long, if_neg outside.1, if_neg outside.2]
  · rw [rebase_of_valid again, rebase_of_valid accepted, setImageBase_setImageBase long]
  · rw [rebase_of_valid again, setImageBase_setImageBase long, stored,
      setImageBase_congr long (prepareFrame_idempotent first)]

/-- A generated payload is one that can be rebased. -/
theorem rebase_laws_generated : ∃ rebased,
    rebase (generate (Vector.replicate pixels 7)) (Vector.replicate pixels 0x1fff) = .ok rebased ∧
      storedOffsets rebased = prepareRaw (Vector.replicate pixels 0x1fff) := by
  have accepted : validatePayload (generate (Vector.replicate pixels 7)) = .ok () :=
    validatePayload_ok_iff.mpr (assemble_valid _ _ _)
  obtain ⟨-, -, rebased, is, -, -, -, -, -, stored⟩ :=
    rebase_laws accepted (Vector.replicate pixels 0x1fff) (Vector.replicate pixels 0)
  exact ⟨rebased, is, stored⟩

end GoodixSpi.Chicago.Calibration
