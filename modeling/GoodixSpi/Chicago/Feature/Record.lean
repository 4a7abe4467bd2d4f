import GoodixSpi.Lib.LittleEndian

/-! The 60-byte feature record and the form in which the feature stage hands records
over: coordinates whose low four bits are clear and orientations that are multiples
of 0x100. -/

namespace GoodixSpi.Chicago

structure FeatureRecord where
  foreground : UInt16
  refinedX : Int16
  refinedY : Int16
  orientation : Int16
  strength : Int32
  descriptor : Vector UInt8 48
deriving DecidableEq

namespace FeatureRecord

/-- `memcpy (&word, record->descriptor + offset, 4)`. -/
def descriptorWord (record : FeatureRecord) (offset : Nat) : UInt32 :=
  LittleEndian.word ((record.descriptor.toList.drop offset).take 4)

/-- `(guint16) record->refined_x`. -/
def unsignedX (record : FeatureRecord) : Nat := record.refinedX.toUInt16.toNat

def unsignedY (record : FeatureRecord) : Nat := record.refinedY.toUInt16.toNat

/-- What `goodix_chicago_feature_pack_record` leaves behind. -/
structure Prepared (record : FeatureRecord) : Prop where
  x : record.unsignedX % 0x10 = 0
  y : record.unsignedY % 0x10 = 0
  orientation : ∃ turn : Int, -0x7f ≤ turn ∧ turn ≤ 0x7f ∧
    record.orientation.toInt = turn * 0x100

end FeatureRecord

end GoodixSpi.Chicago
