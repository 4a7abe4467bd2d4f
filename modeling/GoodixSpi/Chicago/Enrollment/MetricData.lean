import GoodixSpi.Chicago.Enrollment.State

/-! Packed bit planes and the position map, which is a function of the coarse mask. -/

namespace GoodixSpi.Chicago

/-- `(packed[bit >> 3] >> (bit & 7)) & 1`. -/
def bitAt {length : Nat} (packed : Vector UInt8 length) (bit : Nat) : Bool :=
  (packed.toList.getD (bit / 8) 0).toNat.testBit (bit % 8)

/-- The byte whose bits, least significant first, are `bits 0 .. bits 7`. -/
def packByte (bits : Nat → Bool) : UInt8 :=
  UInt8.ofNat ((List.range 8).foldl (fun byte k => if bits k then byte + 2 ^ k else byte) 0)

def packBits (length : Nat) (bits : Nat → Bool) : Vector UInt8 length :=
  Vector.ofFn fun byte => packByte fun k => bits (8 * byte + k)

/-- The 320 coarse bits read as 20 x 16, each doubled in both directions. -/
def metricDataBuildPositionMap (coarseMask : MetricMask) : MetricMap :=
  packBits metricMapPackedBytes fun bit =>
    bitAt coarseMask ((bit / 40 / 2) * 20 + bit % 40 / 2)

/-- `memset (metric_data, 0, sizeof (*metric_data))`. -/
def MetricData.zero : MetricData where
  primary := Vector.replicate _ 0
  secondary := Vector.replicate _ 0
  validity := Vector.replicate _ 0
  coarseMask := Vector.replicate _ 0
  positionMap := Vector.replicate _ 0
  packedResolution := 0

end GoodixSpi.Chicago
