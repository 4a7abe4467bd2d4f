import GoodixSpi.Lib.Buffer
import GoodixSpi.Lib.LittleEndian
import GoodixSpi.Chicago.Enrollment.State

/-! The production calibration payload: two 16-bit maps under checksums, and the sample
count of the gain average, which no checksum covers. -/

namespace GoodixSpi.Chicago

abbrev calibrationPayloadLen : Nat := 0x224b0
abbrev imageWidth : Nat := 80
abbrev imageHeight : Nat := 64
abbrev pixels : Nat := imageWidth * imageHeight
abbrev calibrationMapBytes : Nat := pixels * 2
abbrev gainMapCrcOffset : Nat := 0x00000
abbrev offsetMapCrcOffset : Nat := 0x00004
abbrev gainMapOffset : Nat := 0x00008
abbrev offsetMapOffset : Nat := 0x09928
abbrev temporalSampleCountOffset : Nat := 0x18488
abbrev versionOffset : Nat := 0x22490

/-- A frame in row-major order. -/
abbrev Plane := Vector UInt16 pixels

/-- `plane[index]`. No index a function of the model forms lies outside the plane. -/
def pixelAt (plane : Plane) (index : Nat) : UInt16 := plane.toList.getD index 0

lemma pixelAt_eq (plane : Plane) {index : Nat} (inside : index < pixels) :
    pixelAt plane index = plane[index] := by
  have listed : index < plane.toList.length := by simpa using inside
  rw [pixelAt, List.getD_eq_getElem?_getD, List.getElem?_eq_getElem listed, Option.getD_some,
    Vector.getElem_toList]

/-- Clamp to 12 bits, then repair the first and the last row from their neighbours. -/
def prepareFrame (raw : Plane) : Plane :=
  (List.range' 1 (imageWidth - 2)).foldl (fun prepared column =>
      let first := prepared.setIfInBounds column (pixelAt prepared (imageWidth + column))
      first.setIfInBounds ((imageHeight - 1) * imageWidth + column)
        (pixelAt first ((imageHeight - 2) * imageWidth + column)))
    (raw.map fun value => min value 0x0fff)

namespace Calibration

def readLe16 (pointer : List UInt8) : UInt16 := LittleEndian.half pointer

def readLe32 (pointer : List UInt8) : UInt32 := LittleEndian.word pointer

def writeLe16 (data : List UInt8) (offset : Nat) (value : UInt16) : List UInt8 :=
  Buffer.write data offset (LittleEndian.halfBytes value)

def writeLe32 (data : List UInt8) (offset : Nat) (value : UInt32) : List UInt8 :=
  Buffer.write data offset (LittleEndian.bytes value)

def crcBit (crc : UInt32) : UInt32 :=
  (crc >>> 1) ^^^ (if crc &&& 1 ≠ 0 then 0xedb88320 else 0)

/-- The reflected loop of CRC-32 without the final complement. -/
def calibrationMapCrc32 (data : List UInt8) : UInt32 :=
  data.foldl (fun crc byte => (List.range 8).foldl (fun crc _ => crcBit crc)
    (crc ^^^ byte.toUInt32)) 0xffffffff

/-- The loop that writes a map, one pixel at a time. -/
def writeMap (payload : List UInt8) (offset : Nat) (values : Plane) : List UInt8 :=
  (List.range pixels).foldl (fun payload pixel =>
    writeLe16 payload (offset + pixel * 2) (pixelAt values pixel)) payload

def setImageBase (payload : List UInt8) (imageBase : Plane) : List UInt8 :=
  let mapped := writeMap payload offsetMapOffset (prepareFrame imageBase)
  writeLe32 mapped offsetMapCrcOffset
    (calibrationMapCrc32 (Buffer.read mapped offsetMapOffset calibrationMapBytes))

/-- `"Preprocess_v_1.01.01"` and its terminator. -/
def version : List UInt8 :=
  [0x50, 0x72, 0x65, 0x70, 0x72, 0x6f, 0x63, 0x65, 0x73, 0x73, 0x5f, 0x76, 0x5f, 0x31, 0x2e, 0x30,
    0x31, 0x2e, 0x30, 0x31, 0x00]

/-- A fresh payload with a gain map, a prepared image base and a sample count. -/
def assemble (gains imageBase : Plane) (sampleCount : UInt32) : List UInt8 :=
  let mapped := writeMap (List.replicate calibrationPayloadLen 0) gainMapOffset gains
  let checked := writeLe32 mapped gainMapCrcOffset
    (calibrationMapCrc32 (Buffer.read mapped gainMapOffset calibrationMapBytes))
  let based := setImageBase checked imageBase
  Buffer.write (writeLe32 based temporalSampleCountOffset sampleCount) versionOffset version

/-- The first-run payload: unity gain and no samples. -/
def generate (imageBase : Plane) : List UInt8 :=
  assemble (Vector.replicate pixels 0x2000) imageBase 0

def validatePayload (payload : List UInt8) : Except GError Unit :=
  if payload.length ≠ calibrationPayloadLen then
    .error ⟨.invalidData, "gdix51c0: Chicago calibration payload is " ++
      toString payload.length ++ " bytes, expected " ++ toString calibrationPayloadLen⟩
  else if readLe32 (Buffer.read payload gainMapCrcOffset 4) ≠
        calibrationMapCrc32 (Buffer.read payload gainMapOffset calibrationMapBytes) ∨
      readLe32 (Buffer.read payload offsetMapCrcOffset 4) ≠
        calibrationMapCrc32 (Buffer.read payload offsetMapOffset calibrationMapBytes) then
    .error ⟨.invalidData, "gdix51c0: Chicago calibration map CRC mismatch"⟩
  else .ok ()

def rebase (payload : List UInt8) (imageBase : Plane) : Except GError (List UInt8) := do
  validatePayload payload
  return setImageBase payload imageBase

/-- The gain and the offset of a pixel. -/
def getCorrections (payload : List UInt8) (pixel : Nat) : Except GError (UInt16 × UInt16) :=
  if payload.length ≠ calibrationPayloadLen then
    .error ⟨.invalidData, "gdix51c0: Chicago calibration payload is " ++
      toString payload.length ++ " bytes, expected " ++ toString calibrationPayloadLen⟩
  else if pixel ≥ pixels then
    .error ⟨.invalidArgument, "gdix51c0: Chicago calibration pixel " ++ toString pixel ++
      " is outside 64x80"⟩
  else
    .ok (readLe16 (Buffer.read payload (gainMapOffset + pixel * 2) 2),
      readLe16 (Buffer.read payload (offsetMapOffset + pixel * 2) 2))

def getTemporalSampleCount (payload : List UInt8) : Except GError UInt32 :=
  if payload.length ≠ calibrationPayloadLen then
    .error ⟨.invalidData, "gdix51c0: Chicago calibration payload is " ++
      toString payload.length ++ " bytes, expected " ++ toString calibrationPayloadLen⟩
  else .ok (readLe32 (Buffer.read payload temporalSampleCountOffset 4))

/-- What the validation asks of a payload. -/
structure Valid (payload : List UInt8) : Prop where
  length : payload.length = calibrationPayloadLen
  gain : readLe32 (Buffer.read payload gainMapCrcOffset 4) =
    calibrationMapCrc32 (Buffer.read payload gainMapOffset calibrationMapBytes)
  offset : readLe32 (Buffer.read payload offsetMapCrcOffset 4) =
    calibrationMapCrc32 (Buffer.read payload offsetMapOffset calibrationMapBytes)

lemma validatePayload_ok_iff {payload : List UInt8} :
    validatePayload payload = .ok () ↔ Valid payload := by
  unfold validatePayload
  constructor
  · intro accepted
    split at accepted
    · cases accepted
    · next length =>
      split at accepted
      · cases accepted
      · next crc =>
        push Not at length crc
        exact ⟨length, crc.1, crc.2⟩
  · rintro ⟨length, gain, offset⟩
    rw [if_neg (not_not_intro length), if_neg]
    rintro (bad | bad)
    · exact bad gain
    · exact bad offset

/-! ### What the writes leave behind -/

section Writes

variable {payload : List UInt8} {offset : Nat}

lemma writeMap_eq (values : Plane) (fits : offset + calibrationMapBytes ≤ payload.length) :
    writeMap payload offset values = Buffer.write payload offset
      ((List.range pixels).flatMap fun pixel => LittleEndian.halfBytes (pixelAt values pixel)) :=
  Buffer.foldl_write (fun pixel => LittleEndian.halfBytes (pixelAt values pixel)) (fun _ => rfl)
    pixels fits

lemma length_mapBytes (values : Plane) :
    ((List.range pixels).flatMap fun pixel =>
      LittleEndian.halfBytes (pixelAt values pixel)).length = calibrationMapBytes := by
  simp [List.length_flatMap]

lemma length_writeMap (payload : List UInt8) (offset : Nat) (values : Plane)
    (fits : offset + calibrationMapBytes ≤ payload.length) :
    (writeMap payload offset values).length = payload.length := by
  rw [writeMap_eq values fits, Buffer.length_write (by rw [length_mapBytes]; exact fits)]

lemma read_writeMap_apart (values : Plane) (fits : offset + calibrationMapBytes ≤ payload.length)
    {start size : Nat} (apart : start + size ≤ offset ∨ offset + calibrationMapBytes ≤ start) :
    Buffer.read (writeMap payload offset values) start size = Buffer.read payload start size := by
  rw [writeMap_eq values fits]
  exact Buffer.read_write_apart (by rw [length_mapBytes]; exact fits)
    (by rw [length_mapBytes]; exact apart)

/-- Every pixel of a written map reads back. -/
lemma read_writeMap (values : Plane) (fits : offset + calibrationMapBytes ≤ payload.length)
    {pixel : Nat} (inside : pixel < pixels) :
    readLe16 (Buffer.read (writeMap payload offset values) (offset + pixel * 2) 2) =
      pixelAt values pixel := by
  have part : pixel * 2 + 2 ≤ calibrationMapBytes := by
    simp only [calibrationMapBytes]
    omega
  rw [writeMap_eq values fits, Buffer.read_write_inside (by rw [length_mapBytes]; exact fits)
      (by rw [length_mapBytes]; exact part),
    Buffer.read_flatMap (fun pixel => LittleEndian.halfBytes (pixelAt values pixel))
      (fun _ => rfl) inside, readLe16, LittleEndian.half_halfBytes]

lemma length_writeLe32 (value : UInt32) (fits : offset + 4 ≤ payload.length) :
    (writeLe32 payload offset value).length = payload.length :=
  Buffer.length_write fits

lemma read_writeLe32 (value : UInt32) (fits : offset + 4 ≤ payload.length) :
    readLe32 (Buffer.read (writeLe32 payload offset value) offset 4) = value := by
  have block : Buffer.read (writeLe32 payload offset value) offset 4 =
      LittleEndian.bytes value := Buffer.read_write_self fits
  rw [block, readLe32, LittleEndian.word_bytes]

lemma read_writeLe32_apart (value : UInt32) (fits : offset + 4 ≤ payload.length)
    {start size : Nat} (apart : start + size ≤ offset ∨ offset + 4 ≤ start) :
    Buffer.read (writeLe32 payload offset value) start size = Buffer.read payload start size :=
  Buffer.read_write_apart fits apart

end Writes

/-- Where the maps, their checksums and the count stand. -/
lemma offsets : pixels = 5120 ∧ calibrationMapBytes = 10240 ∧ gainMapCrcOffset = 0 ∧
    offsetMapCrcOffset = 4 ∧ gainMapOffset = 8 ∧ offsetMapOffset = 39208 ∧
    temporalSampleCountOffset = 99464 ∧ versionOffset = 140432 := by
  decide

section SetImageBase

variable {payload : List UInt8} (imageBase : Plane)
  (long : payload.length = calibrationPayloadLen)
include long

lemma length_setImageBase : (setImageBase payload imageBase).length = calibrationPayloadLen := by
  have mapped := length_writeMap payload offsetMapOffset (prepareFrame imageBase)
    (by rw [long]; decide)
  rw [setImageBase, length_writeLe32 _ (by rw [mapped, long]; decide), mapped, long]

/-- Outside the offset map and its checksum nothing changes. -/
lemma read_setImageBase_apart {start size : Nat}
    (crc : start + size ≤ offsetMapCrcOffset ∨ offsetMapCrcOffset + 4 ≤ start)
    (map : start + size ≤ offsetMapOffset ∨ offsetMapOffset + calibrationMapBytes ≤ start) :
    Buffer.read (setImageBase payload imageBase) start size = Buffer.read payload start size := by
  have mapped := length_writeMap payload offsetMapOffset (prepareFrame imageBase)
    (by rw [long]; decide)
  rw [setImageBase, read_writeLe32_apart _ (by rw [mapped, long]; decide) crc,
    read_writeMap_apart _ (by rw [long]; decide) map]

lemma read_setImageBase {pixel : Nat} (inside : pixel < pixels) :
    readLe16 (Buffer.read (setImageBase payload imageBase) (offsetMapOffset + pixel * 2) 2) =
      pixelAt (prepareFrame imageBase) pixel := by
  have mapped := length_writeMap payload offsetMapOffset (prepareFrame imageBase)
    (by rw [long]; decide)
  have places := offsets
  rw [setImageBase, read_writeLe32_apart _ (by rw [mapped, long]; decide) (by omega),
    read_writeMap _ (by rw [long]; decide) inside]

lemma setImageBase_crc :
    readLe32 (Buffer.read (setImageBase payload imageBase) offsetMapCrcOffset 4) =
      calibrationMapCrc32 (Buffer.read (setImageBase payload imageBase) offsetMapOffset
        calibrationMapBytes) := by
  have mapped := length_writeMap payload offsetMapOffset (prepareFrame imageBase)
    (by rw [long]; decide)
  rw [setImageBase, read_writeLe32 _ (by rw [mapped, long]; decide),
    read_writeLe32_apart _ (by rw [mapped, long]; decide) (by decide)]

end SetImageBase

section Assemble

variable (gains imageBase : Plane) (sampleCount : UInt32)

/-- The payload before the count and the version marker are written. -/
def assembledMaps : List UInt8 :=
  let mapped := writeMap (List.replicate calibrationPayloadLen 0) gainMapOffset gains
  writeLe32 mapped gainMapCrcOffset
    (calibrationMapCrc32 (Buffer.read mapped gainMapOffset calibrationMapBytes))

lemma assemble_eq : assemble gains imageBase sampleCount =
    Buffer.write (writeLe32 (setImageBase (assembledMaps gains) imageBase)
      temporalSampleCountOffset sampleCount) versionOffset version := rfl

lemma length_assembledMaps : (assembledMaps gains).length = calibrationPayloadLen := by
  have mapped := length_writeMap (List.replicate calibrationPayloadLen 0) gainMapOffset gains
    (by rw [List.length_replicate]; decide)
  rw [List.length_replicate] at mapped
  rw [assembledMaps, length_writeLe32 _ (by rw [mapped]; decide), mapped]

lemma assembledMaps_crc :
    readLe32 (Buffer.read (assembledMaps gains) gainMapCrcOffset 4) =
      calibrationMapCrc32 (Buffer.read (assembledMaps gains) gainMapOffset
        calibrationMapBytes) := by
  have mapped := length_writeMap (List.replicate calibrationPayloadLen 0) gainMapOffset gains
    (by rw [List.length_replicate]; decide)
  rw [List.length_replicate] at mapped
  rw [assembledMaps, read_writeLe32 _ (by rw [mapped]; decide),
    read_writeLe32_apart _ (by rw [mapped]; decide) (by decide)]

lemma read_assembledMaps {pixel : Nat} (inside : pixel < pixels) :
    readLe16 (Buffer.read (assembledMaps gains) (gainMapOffset + pixel * 2) 2) =
      pixelAt gains pixel := by
  have mapped := length_writeMap (List.replicate calibrationPayloadLen 0) gainMapOffset gains
    (by rw [List.length_replicate]; decide)
  rw [List.length_replicate] at mapped
  rw [assembledMaps, read_writeLe32_apart _ (by rw [mapped]; decide) (by have := offsets; omega),
    read_writeMap _ (by rw [List.length_replicate]; decide) inside]

lemma length_counted : (writeLe32 (setImageBase (assembledMaps gains) imageBase)
    temporalSampleCountOffset sampleCount).length = calibrationPayloadLen := by
  have based := length_setImageBase imageBase (length_assembledMaps gains)
  rw [length_writeLe32 _ (by rw [based]; decide), based]

lemma length_assemble :
    (assemble gains imageBase sampleCount).length = calibrationPayloadLen := by
  have counted := length_counted gains imageBase sampleCount
  rw [assemble_eq, Buffer.length_write (by rw [counted]; decide), counted]

/-- The maps and their checksums stand below the count and the version marker. -/
lemma read_assemble {start size : Nat} (below : start + size ≤ temporalSampleCountOffset) :
    Buffer.read (assemble gains imageBase sampleCount) start size =
      Buffer.read (setImageBase (assembledMaps gains) imageBase) start size := by
  have based := length_setImageBase imageBase (length_assembledMaps gains)
  have places := offsets
  rw [assemble_eq, Buffer.read_write_apart (by rw [length_counted]; decide) (by omega),
    read_writeLe32_apart _ (by rw [based]; decide) (by omega)]

/-- An assembled payload is accepted. -/
theorem assemble_valid : Valid (assemble gains imageBase sampleCount) where
  length := length_assemble gains imageBase sampleCount
  gain := by
    have long := length_assembledMaps gains
    rw [read_assemble _ _ _ (by decide), read_assemble _ _ _ (by decide),
      read_setImageBase_apart _ long (by decide) (by decide),
      read_setImageBase_apart _ long (by decide) (by decide), assembledMaps_crc]
  offset := by
    rw [read_assemble _ _ _ (by decide), read_assemble _ _ _ (by decide),
      setImageBase_crc _ (length_assembledMaps gains)]

lemma getCorrections_assemble {pixel : Nat} (inside : pixel < pixels) :
    getCorrections (assemble gains imageBase sampleCount) pixel =
      .ok (pixelAt gains pixel, pixelAt (prepareFrame imageBase) pixel) := by
  have long := length_assembledMaps gains
  have places := offsets
  rw [getCorrections, if_neg (not_not_intro (length_assemble _ _ _)), if_neg (by omega),
    read_assemble _ _ _ (by omega), read_assemble _ _ _ (by omega),
    read_setImageBase _ long inside, read_setImageBase_apart _ long (by omega) (by omega),
    read_assembledMaps _ inside]

lemma getTemporalSampleCount_assemble :
    getTemporalSampleCount (assemble gains imageBase sampleCount) = .ok sampleCount := by
  have based := length_setImageBase imageBase (length_assembledMaps gains)
  rw [getTemporalSampleCount, if_neg (not_not_intro (length_assemble _ _ _)), assemble_eq,
    Buffer.read_write_apart (by rw [length_counted]; decide) (by decide),
    read_writeLe32 _ (by rw [based]; decide)]

end Assemble

end Calibration

end GoodixSpi.Chicago
