import Mathlib.Tactic.Lemma
import Mathlib.Tactic.NormNum

/-! The little-endian byte order of 16-bit and 32-bit words. -/

namespace LittleEndian

def bytes (word : UInt32) : List UInt8 :=
  [UInt8.ofNat word.toNat, UInt8.ofNat (word.toNat / 0x100),
    UInt8.ofNat (word.toNat / 0x10000), UInt8.ofNat (word.toNat / 0x1000000)]

/-- The word in the first four bytes; missing bytes count as zero. -/
def word (bs : List UInt8) : UInt32 :=
  UInt32.ofNat ((bs.getD 0 0).toNat + 0x100 * (bs.getD 1 0).toNat +
    0x10000 * (bs.getD 2 0).toNat + 0x1000000 * (bs.getD 3 0).toNat)

@[simp] lemma length_bytes (w : UInt32) : (bytes w).length = 4 := rfl

lemma word_bytes_append (w : UInt32) (rest : List UInt8) : word (bytes w ++ rest) = w := by
  have h := w.toNat_lt
  apply UInt32.toNat_inj.mp
  simp only [word, bytes, List.cons_append, List.getD_cons_zero, List.getD_cons_succ,
    UInt8.toNat_ofNat', UInt32.toNat_ofNat']
  omega

@[simp] lemma word_bytes (w : UInt32) : word (bytes w) = w := by
  simpa using word_bytes_append w []

lemma bytes_word {bs : List UInt8} (h : bs.length = 4) : bytes (word bs) = bs := by
  match bs, h with
  | [a, b, c, d], _ =>
    have ha := a.toNat_lt
    have hb := b.toNat_lt
    have hc := c.toNat_lt
    have hd := d.toNat_lt
    simp only [bytes, word, List.getD_cons_zero, List.getD_cons_succ, List.cons.injEq, and_true]
    refine ⟨?_, ?_, ?_, ?_⟩ <;> apply UInt8.toNat_inj.mp <;>
      simp only [UInt8.toNat_ofNat', UInt32.toNat_ofNat'] <;> omega

lemma bytes_injective {v w : UInt32} (h : bytes v = bytes w) : v = w := by
  simpa using congrArg word h

def halfBytes (half : UInt16) : List UInt8 :=
  [UInt8.ofNat half.toNat, UInt8.ofNat (half.toNat / 0x100)]

/-- The half word in the first two bytes; missing bytes count as zero. -/
def half (bs : List UInt8) : UInt16 :=
  UInt16.ofNat ((bs.getD 0 0).toNat + 0x100 * (bs.getD 1 0).toNat)

@[simp] lemma length_halfBytes (h : UInt16) : (halfBytes h).length = 2 := rfl

@[simp] lemma half_halfBytes (h : UInt16) : half (halfBytes h) = h := by
  have bound := h.toNat_lt
  apply UInt16.toNat_inj.mp
  simp only [half, halfBytes, List.getD_cons_zero, List.getD_cons_succ, UInt8.toNat_ofNat',
    UInt16.toNat_ofNat']
  omega

/-- The shifts and casts of the usual writer. -/
lemma halfBytes_eq (h : UInt16) : halfBytes h = [h.toUInt8, (h >>> 8).toUInt8] := by
  simp only [halfBytes, List.cons.injEq, and_true]
  constructor
  · apply UInt8.toNat_inj.mp
    simp
  · apply UInt8.toNat_inj.mp
    simp [Nat.shiftRight_eq_div_pow]

/-- The shift and the disjunction of the usual reader. -/
lemma half_cons (a b : UInt8) (rest : List UInt8) :
    half (a :: b :: rest) = a.toUInt16 ||| (b.toUInt16 <<< 8) := by
  have ha := a.toNat_lt
  have hb := b.toNat_lt
  apply UInt16.toNat_inj.mp
  have shifted : (b.toUInt16 <<< 8).toNat = b.toNat * 0x100 := by
    simp [Nat.shiftLeft_eq]
    omega
  have joined := Nat.two_pow_add_eq_or_of_lt (i := 8) ha b.toNat
  rw [UInt16.toNat_or, shifted, UInt8.toNat_toUInt16, Nat.or_comm, Nat.mul_comm, ← joined]
  simp only [half, List.getD_cons_zero, List.getD_cons_succ, UInt16.toNat_ofNat']
  omega

lemma halfBytes_half (a b : UInt8) : halfBytes (half [a, b]) = [a, b] := by
  have ha := a.toNat_lt
  have hb := b.toNat_lt
  simp only [halfBytes, half, List.getD_cons_zero, List.getD_cons_succ, List.cons.injEq, and_true]
  constructor
  · apply UInt8.toNat_inj.mp
    simp only [UInt8.toNat_ofNat', UInt16.toNat_ofNat']
    omega
  · apply UInt8.toNat_inj.mp
    simp only [UInt8.toNat_ofNat', UInt16.toNat_ofNat']
    omega

end LittleEndian
