import Mathlib.Data.UInt
import Mathlib.Tactic.Lemma

/-! Unsigned words that hold integers, read back as signed ones. -/

namespace Reinterpret

lemma ofInt_natCast16 (value : ℕ) : UInt16.ofInt value = value.toUInt16 := by
  apply UInt16.toNat.inj
  simp only [UInt16.ofInt, Nat.toUInt16_eq, UInt16.toNat_ofNat']
  omega

lemma toInt_toInt16_ofInt {value : ℤ} (low : -0x8000 ≤ value) (high : value < 0x8000) :
    (UInt16.ofInt value).toInt16.toInt = value := by
  have same : (UInt16.ofInt value).toInt16 = Int16.ofInt value := by
    apply Int16.toBitVec_inj.mp
    apply BitVec.eq_of_toNat_eq
    rw [Int16.toBitVec_ofInt, BitVec.toNat_ofInt]
    change (UInt16.ofInt value).toNat = _
    simp only [UInt16.ofInt, UInt16.toNat_ofNat']
    omega
  rw [same, Int16.toInt_ofInt_of_le (by omega) (by omega)]

lemma toInt_toInt32_ofInt {value : ℤ} (low : -0x80000000 ≤ value) (high : value < 0x80000000) :
    (UInt32.ofInt value).toInt32.toInt = value := by
  have same : (UInt32.ofInt value).toInt32 = Int32.ofInt value := by
    apply Int32.toBitVec_inj.mp
    apply BitVec.eq_of_toNat_eq
    rw [Int32.toBitVec_ofInt, BitVec.toNat_ofInt]
    change (UInt32.ofInt value).toNat = _
    simp only [UInt32.ofInt, UInt32.toNat_ofNat']
    omega
  rw [same, Int32.toInt_ofInt_of_le (by omega) (by omega)]

lemma toInt_toInt32 {value : UInt32} (small : value.toNat < 0x80000000) :
    value.toInt32.toInt = value.toNat := by
  have same : value = UInt32.ofInt value.toNat := by
    apply UInt32.toNat.inj
    simp only [UInt32.ofInt, UInt32.toNat_ofNat']
    omega
  rw [same, toInt_toInt32_ofInt (by omega) (by omega), ← same]

lemma toNat_toUInt16 {value : Int16} (nonneg : 0 ≤ value.toInt) :
    (value.toUInt16.toNat : ℤ) = value.toInt := by
  rw [Int16.toNat_toUInt16_of_le (Int16.le_iff_toInt_le.mpr nonneg)]
  exact Int.toNat_of_nonneg nonneg

lemma toNat_ofInt32 {value : ℤ} (nonneg : 0 ≤ value) (small : value < 0x100000000) :
    (UInt32.ofInt value).toNat = value.toNat := by
  simp only [UInt32.ofInt, UInt32.toNat_ofNat']
  omega

end Reinterpret
