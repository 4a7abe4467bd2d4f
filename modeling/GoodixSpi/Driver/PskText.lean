import GoodixSpi.Driver.PskRepair
import Mathlib.Data.List.GetD

/-! The text of a PSK: 64 characters, two for a byte. Each pair goes through a number parser that
skips white space and takes a sign, so that a pair of one such character and a digit is read as a
byte as well. -/

namespace GoodixSpi.Driver

/-! ### The number parser -/

/-- The digits at the front of a text, and what comes behind them. -/
def readHexDigits : ℕ → List UInt8 → ℕ × List UInt8
  | value, [] => (value, [])
  | value, c :: rest =>
    match hexDigit c with
    | some digit => readHexDigits (16 * value + digit.toNat) rest
    | none => (value, c :: rest)

/-- The sign of a number. -/
def readSign : List UInt8 → Bool × List UInt8
  | [] => (false, [])
  | c :: rest =>
    if c = 0x2d then (true, rest) else if c = 0x2b then (false, rest) else (false, c :: rest)

/-- The characters behind the prefix of a number, if it has one. -/
def readPrefix : List UInt8 → Option (List UInt8)
  | zero :: c :: rest => if zero = 0x30 ∧ (c = 0x78 ∨ c = 0x58) then some rest else none
  | _ => none

def withSign (negative : Bool) (magnitude : ℕ) : ℕ :=
  if negative then (2 ^ 64 - magnitude) % 2 ^ 64 else magnitude

/-- `g_ascii_strtoull (text, &endp, 16)`: the number, and the text at `endp`. Without a digit behind
the prefix the number is the zero of the prefix; without any digit nothing is parsed. -/
def gAsciiStrtoull (text : List UInt8) : ℕ × List UInt8 :=
  let signed := readSign (text.dropWhile asciiIsSpace)
  let body := (readPrefix signed.2).getD signed.2
  let parsed := readHexDigits 0 body
  if parsed.2.length = body.length then
    if (readPrefix signed.2).isSome then (0, signed.2.tail) else (0, text)
  else (withSign signed.1 (min parsed.1 (2 ^ 64 - 1)), parsed.2)

/-! ### The other direction -/

def lowerDigit (digit : UInt8) : UInt8 := if digit < 10 then 0x30 + digit else 0x57 + digit

/-- `"%02x"`. -/
def byteToHex (byte : UInt8) : List UInt8 := [lowerDigit (byte / 16), lowerDigit (byte % 16)]

/-- `gdix51c0_psk_to_hex`. -/
def pskToHex (psk : Psk) : List UInt8 := psk.toList.flatMap byteToHex

/-! ### Characters -/

/-- `g_ascii_tolower`. -/
def asciiToLower (c : UInt8) : UInt8 := if 0x41 ≤ c ∧ c ≤ 0x5a then c + 0x20 else c

/-- What the number parser takes before the first digit. -/
def skipped (c : UInt8) : Bool := asciiIsSpace c || c = 0x2b || c = 0x2d

lemma forall_byte {P : UInt8 → Prop} (each : ∀ n < 256, P (UInt8.ofNat n)) (c : UInt8) : P c := by
  have holds := each c.toNat c.toNat_lt
  rwa [UInt8.ofNat_toNat] at holds

/-- Forwards and backwards, and the characters that are no digits. -/
lemma hexDigit_byte (c : UInt8) :
    ((hexDigit c).all fun digit => digit < 16 ∧ lowerDigit digit = asciiToLower c) = true ∧
      (skipped c = true → hexDigit c = none) ∧ (c < 16 → hexDigit (lowerDigit c) = some c) :=
  forall_byte (P := fun c =>
    ((hexDigit c).all fun digit => digit < 16 ∧ lowerDigit digit = asciiToLower c) = true ∧
      (skipped c = true → hexDigit c = none) ∧ (c < 16 → hexDigit (lowerDigit c) = some c))
    (by decide +kernel) c

/-- A digit is the lower-case digit of its value, but for its case. -/
lemma hexDigit_lower (c : UInt8) :
    ∀ digit ∈ hexDigit c, digit < 16 ∧ lowerDigit digit = asciiToLower c := by
  have each := (hexDigit_byte c).1
  intro digit read
  rw [Option.mem_def.mp read] at each
  exact of_decide_eq_true each

lemma hexDigit_skipped (c : UInt8) : skipped c = true → hexDigit c = none :=
  (hexDigit_byte c).2.1

lemma hexDigit_lowerDigit {digit : UInt8} (small : digit < 16) :
    hexDigit (lowerDigit digit) = some digit :=
  (hexDigit_byte digit).2.2 small

lemma digits_of_byte {high low : UInt8} (highSmall : high < 16) (lowSmall : low < 16) :
    (16 * high + low) / 16 = high ∧ (16 * high + low) % 16 = low := by
  have h := UInt8.lt_iff_toNat_lt.mp highSmall
  have l := UInt8.lt_iff_toNat_lt.mp lowSmall
  simp only [UInt8.toNat_ofNat] at h l
  constructor <;> apply UInt8.toNat_inj.mp <;> simp <;> omega

lemma byte_of_digits (byte : UInt8) : 16 * (byte / 16) + byte % 16 = byte := by
  have small := byte.toNat_lt
  apply UInt8.toNat_inj.mp
  simp
  omega

/-! ### One pair -/

/-- The byte of a parsed text. -/
def parsedByte (parsed : ℕ × List UInt8) : Option UInt8 :=
  if parsed.2 = [] then some (UInt8.ofNat parsed.1) else none

lemma ofNat_withSign (negative : Bool) (digit : UInt8) :
    UInt8.ofNat (withSign negative (min digit.toNat (2 ^ 64 - 1))) =
      if negative then 0 - digit else digit := by
  have small : digit.toNat < 2 ^ 8 := digit.toNat_lt
  rw [Nat.min_eq_left (by omega)]
  cases negative with
  | false => exact UInt8.ofNat_toNat
  | true =>
    apply UInt8.toNat_inj.mp
    rw [if_pos rfl, withSign, if_pos rfl, UInt8.toNat_ofNat', UInt8.toNat_sub, UInt8.toNat_zero]
    omega

/-- What is left of two characters when the white space and the sign are gone. -/
lemma parsedByte_single {first second c : UInt8} {negative : Bool}
    (signed : readSign ([first, second].dropWhile asciiIsSpace) = (negative, [c])) :
    parsedByte (gAsciiStrtoull [first, second]) =
      (hexDigit c).map fun digit => if negative then 0 - digit else digit := by
  unfold gAsciiStrtoull
  rw [signed]
  cases isDigit : hexDigit c with
  | none =>
    have parsed : readHexDigits 0 [c] = (0, [c]) := by simp only [readHexDigits, isDigit]
    simp only [readPrefix, Option.getD_none, parsed]
    rfl
  | some digit =>
    have parsed : readHexDigits 0 [c] = (digit.toNat, []) := by
      simp only [readHexDigits, isDigit, Nat.mul_zero, Nat.zero_add]
    simp only [readPrefix, Option.getD_none, parsed, Option.map_some]
    exact congrArg some (ofNat_withSign negative digit)

lemma parsedByte_nil {first second : UInt8} {negative : Bool}
    (signed : readSign ([first, second].dropWhile asciiIsSpace) = (negative, [])) :
    parsedByte (gAsciiStrtoull [first, second]) = none := by
  unfold gAsciiStrtoull parsedByte
  rw [signed]
  simp [readPrefix, readHexDigits]

/-- Two characters that are neither white space nor a sign. -/
lemma parsedByte_pair {first second : UInt8}
    (signed : readSign ([first, second].dropWhile asciiIsSpace) = (false, [first, second])) :
    parsedByte (gAsciiStrtoull [first, second]) =
      (hexDigit first).bind fun high => (hexDigit second).map fun low => 16 * high + low := by
  unfold gAsciiStrtoull
  rw [signed]
  by_cases isPrefix : first = 0x30 ∧ (second = 0x78 ∨ second = 0x58)
  · obtain ⟨rfl, rfl | rfl⟩ := isPrefix <;> rfl
  · simp only [readPrefix, if_neg isPrefix, Option.getD_none]
    cases isHigh : hexDigit first with
    | none =>
      simp only [readHexDigits, isHigh]
      rfl
    | some high =>
      cases isLow : hexDigit second with
      | none =>
        simp only [readHexDigits, isHigh, isLow]
        rfl
      | some low =>
        have noOverflow : min (16 * high.toNat + low.toNat) (2 ^ 64 - 1) =
            16 * high.toNat + low.toNat := by
          have h := high.toNat_lt
          have l := low.toNat_lt
          omega
        simp only [readHexDigits, isHigh, isLow, Nat.mul_zero, Nat.zero_add, noOverflow]
        refine congrArg some (UInt8.toNat_inj.mp ?_)
        simp [withSign]

lemma asciiStrtoull_of_skipped {first second : UInt8} (isSkipped : skipped first = true) :
    asciiStrtoull first second =
      (hexDigit second).map fun digit => if first = 0x2d then 0 - digit else digit := by
  unfold asciiStrtoull
  rw [hexDigit_skipped first isSkipped]
  cases hexDigit second with
  | none => rfl
  | some digit =>
    by_cases minus : first = 0x2d
    · rw [minus]
      rfl
    · have before : (asciiIsSpace first || first = 0x2b) = true := by
        simpa [skipped, minus] using isSkipped
      simp [before, minus]

/-- The pair parser is the number parser, followed by the test of `endp`. -/
lemma asciiStrtoull_eq (first second : UInt8) :
    asciiStrtoull first second = parsedByte (gAsciiStrtoull [first, second]) := by
  by_cases space : asciiIsSpace first = true
  · have notMinus : first ≠ 0x2d := by
      rintro rfl
      exact absurd space (by decide)
    rw [asciiStrtoull_of_skipped (by simp [skipped, space])]
    by_cases spaceToo : skipped second = true
    · have signed : ∃ negative, readSign ([first, second].dropWhile asciiIsSpace) =
          (negative, []) := by
        by_cases again : asciiIsSpace second = true
        · exact ⟨false, by simp [space, again, readSign]⟩
        · by_cases minus : second = 0x2d
          · refine ⟨true, ?_⟩
            rw [List.dropWhile_cons_of_pos space, minus]
            rfl
          · have plus : second = 0x2b := by simpa [skipped, again, minus] using spaceToo
            refine ⟨false, ?_⟩
            rw [List.dropWhile_cons_of_pos space, plus]
            rfl
      obtain ⟨negative, signed⟩ := signed
      rw [parsedByte_nil signed, hexDigit_skipped second spaceToo]
      rfl
    · have signed : readSign ([first, second].dropWhile asciiIsSpace) = (false, [second]) := by
        simp only [skipped, Bool.or_eq_true, decide_eq_true_eq, not_or] at spaceToo
        simp [space, readSign, spaceToo]
      rw [parsedByte_single signed]
      simp [notMinus]
  · have kept : [first, second].dropWhile asciiIsSpace = [first, second] :=
      List.dropWhile_cons_of_neg space
    by_cases minus : first = 0x2d
    · have signed : readSign ([first, second].dropWhile asciiIsSpace) = (true, [second]) := by
        rw [kept, minus]
        rfl
      rw [asciiStrtoull_of_skipped (by simp [skipped, minus]), parsedByte_single signed]
      simp [minus]
    · by_cases plus : first = 0x2b
      · have signed : readSign ([first, second].dropWhile asciiIsSpace) = (false, [second]) := by
          rw [kept, plus]
          rfl
        rw [asciiStrtoull_of_skipped (by simp [skipped, plus]), parsedByte_single signed]
        simp [minus]
      · rw [parsedByte_pair (by simp [space, readSign, minus, plus])]
        unfold asciiStrtoull
        cases hexDigit first <;> cases hexDigit second <;> simp [space, minus, plus]

lemma asciiStrtoull_isSome_iff (first second : UInt8) :
    (asciiStrtoull first second).isSome = true ↔ (hexDigit second).isSome = true ∧
      ((hexDigit first).isSome = true ∨ skipped first = true) := by
  unfold asciiStrtoull skipped
  cases hexDigit first with
  | some high => cases hexDigit second <;> simp
  | none =>
    cases hexDigit second with
    | none => simp
    | some low =>
      by_cases before : (asciiIsSpace first || first = 0x2b) = true
      · simp [before]
      · rw [Bool.not_eq_true] at before
        by_cases minus : first = 0x2d
        · rw [before]
          simp [minus]
        · simp [before, minus]

/-- The text of a byte is read back. -/
lemma asciiStrtoull_byteToHex (byte : UInt8) :
    asciiStrtoull (lowerDigit (byte / 16)) (lowerDigit (byte % 16)) = some byte := by
  have small := byte.toNat_lt
  have high : byte / 16 < 16 := by
    apply UInt8.lt_iff_toNat_lt.mpr
    simp
    omega
  have low : byte % 16 < 16 := by
    apply UInt8.lt_iff_toNat_lt.mpr
    simp
    omega
  unfold asciiStrtoull
  rw [hexDigit_lowerDigit high, hexDigit_lowerDigit low]
  exact congrArg some (byte_of_digits byte)

/-- Two digits are read as the byte whose text they are. -/
lemma byteToHex_of_digits {first second byte : UInt8} (digits : (hexDigit first).isSome = true)
    (read : asciiStrtoull first second = some byte) :
    byteToHex byte = [asciiToLower first, asciiToLower second] := by
  obtain ⟨high, isHigh⟩ := Option.isSome_iff_exists.mp digits
  unfold asciiStrtoull at read
  rw [isHigh] at read
  cases isLow : hexDigit second with
  | none =>
    rw [isLow] at read
    cases read
  | some low =>
    rw [isLow] at read
    cases read
    obtain ⟨highSmall, highText⟩ := hexDigit_lower first high isHigh
    obtain ⟨lowSmall, lowText⟩ := hexDigit_lower second low isLow
    obtain ⟨front, back⟩ := digits_of_byte highSmall lowSmall
    rw [byteToHex, front, back, highText, lowText]

/-! ### The text -/

lemma length_pskToHex (psk : Psk) : (pskToHex psk).length = 64 := by
  have each : ∀ byte ∈ psk.toList, (byteToHex byte).length = 2 := fun _ _ => rfl
  rw [pskToHex, List.length_flatMap, List.map_congr_left each]
  simp

lemma getD_flatMap_byteToHex (bytes : List UInt8) {i : ℕ} (inside : i < bytes.length) :
    (bytes.flatMap byteToHex).getD (2 * i) 0 = lowerDigit (bytes[i] / 16) ∧
      (bytes.flatMap byteToHex).getD (2 * i + 1) 0 = lowerDigit (bytes[i] % 16) := by
  induction bytes generalizing i with
  | nil => cases inside
  | cons byte rest ih =>
    cases i with
    | zero => exact ⟨rfl, rfl⟩
    | succ i => exact ih (Nat.lt_of_succ_lt_succ inside)

lemma parsePskHex_ok_iff (hex : List UInt8) (psk : Psk) :
    parsePskHex hex = .ok psk ↔ hex.length = 64 ∧ ∀ i, (inside : i < 32) →
      asciiStrtoull (hex.getD (2 * i) 0) (hex.getD (2 * i + 1) 0) = some psk[i] := by
  unfold parsePskHex
  by_cases length : hex.length = 64
  · rw [if_neg (not_not_intro length)]
    dsimp only
    constructor
    · intro parsed
      split at parsed
      · rename_i all
        refine ⟨length, fun i inside => ?_⟩
        have accepted := Vector.all_eq_true.mp all i inside
        rw [Vector.getElem_ofFn] at accepted
        obtain ⟨byte, read⟩ := Option.isSome_iff_exists.mp accepted
        cases parsed
        rw [Vector.getElem_map, Vector.getElem_ofFn, read]
        rfl
      · cases parsed
    · rintro ⟨-, pairs⟩
      have all : ((Vector.ofFn fun i : Fin 32 =>
          asciiStrtoull (hex.getD (2 * i) 0) (hex.getD (2 * i + 1) 0)).all Option.isSome) =
            true := by
        apply Vector.all_eq_true.mpr
        intro i inside
        rw [Vector.getElem_ofFn, pairs i inside]
        rfl
      rw [if_pos all]
      refine congrArg Except.ok (Vector.ext fun i inside => ?_)
      rw [Vector.getElem_map, Vector.getElem_ofFn, pairs i inside]
      rfl
  · rw [if_pos length]
    constructor
    · intro parsed
      cases parsed
    · intro both
      exact absurd both.1 length

/-- The positions of a text go by pairs. -/
lemma forall_positions {P : ℕ → Prop} :
    (∀ n < 64, P n) ↔ ∀ i < 32, P (2 * i) ∧ P (2 * i + 1) := by
  constructor
  · intro each i inside
    exact ⟨each _ (by omega), each _ (by omega)⟩
  · intro pairs n inside
    obtain ⟨even, odd⟩ := pairs (n / 2) (by omega)
    rcases Nat.mod_two_eq_zero_or_one n with isEven | isOdd
    · rwa [show 2 * (n / 2) = n by omega] at even
    · rwa [show 2 * (n / 2) + 1 = n by omega] at odd

/-- A property of all characters is one of both characters of every pair. -/
lemma forall_pairs {hex : List UInt8} (length : hex.length = 64) {P : UInt8 → Prop} :
    (∀ c ∈ hex, P c) ↔ ∀ i < 32, P (hex.getD (2 * i) 0) ∧ P (hex.getD (2 * i + 1) 0) := by
  rw [← @forall_positions fun n => P (hex.getD n 0)]
  constructor
  · intro each n inside
    rw [List.getD_eq_getElem _ _ (by omega)]
    exact each _ (List.getElem_mem _)
  · intro positions c mem
    obtain ⟨n, inside, rfl⟩ := List.mem_iff_getElem.mp mem
    rw [← List.getD_eq_getElem _ 0 inside]
    exact positions n (by omega)

/-- Texts of 64 characters are equal where their pairs are. -/
lemma eq_of_pairs {first second : List UInt8} (length : first.length = 64)
    (lengthToo : second.length = 64)
    (pairs : ∀ i < 32, first.getD (2 * i) 0 = second.getD (2 * i) 0 ∧
      first.getD (2 * i + 1) 0 = second.getD (2 * i + 1) 0) : first = second := by
  apply List.ext_getElem (length.trans lengthToo.symm)
  intro n inside insideToo
  rw [← List.getD_eq_getElem _ 0 inside, ← List.getD_eq_getElem _ 0 insideToo]
  exact (@forall_positions fun n => first.getD n 0 = second.getD n 0).mpr pairs n (by omega)

lemma getD_pskToHex (psk : Psk) (i : ℕ) (inside : i < 32) :
    (pskToHex psk).getD (2 * i) 0 = lowerDigit (psk[i] / 16) ∧
      (pskToHex psk).getD (2 * i + 1) 0 = lowerDigit (psk[i] % 16) := by
  have inList : i < psk.toList.length := by rwa [Vector.length_toList]
  obtain ⟨even, odd⟩ := getD_flatMap_byteToHex psk.toList inList
  rw [Vector.getElem_toList] at even odd
  exact ⟨even, odd⟩

/-- What is written for a key is read as that key. -/
lemma parsePskHex_pskToHex (psk : Psk) : parsePskHex (pskToHex psk) = .ok psk := by
  apply (parsePskHex_ok_iff _ _).mpr
  constructor
  · exact length_pskToHex psk
  · intro i inside
    obtain ⟨even, odd⟩ := getD_pskToHex psk i inside
    rw [even, odd]
    exact asciiStrtoull_byteToHex _

lemma parsePskHex_accepts_iff (hex : List UInt8) :
    (∃ psk, parsePskHex hex = .ok psk) ↔ hex.length = 64 ∧ ∀ i < 32,
      (hexDigit (hex.getD (2 * i + 1) 0)).isSome = true ∧
        ((hexDigit (hex.getD (2 * i) 0)).isSome = true ∨ skipped (hex.getD (2 * i) 0) = true) := by
  constructor
  · rintro ⟨psk, parsed⟩
    obtain ⟨length, pairs⟩ := (parsePskHex_ok_iff _ _).mp parsed
    refine ⟨length, fun i inside => (asciiStrtoull_isSome_iff _ _).mp ?_⟩
    rw [pairs i inside]
    rfl
  · rintro ⟨length, pairs⟩
    refine ⟨.ofFn fun i => (asciiStrtoull (hex.getD (2 * i) 0) (hex.getD (2 * i + 1) 0)).getD 0,
      (parsePskHex_ok_iff _ _).mpr ⟨length, fun i inside => ?_⟩⟩
    obtain ⟨byte, read⟩ := Option.isSome_iff_exists.mp
      ((asciiStrtoull_isSome_iff _ _).mpr (pairs i inside))
    rw [Vector.getElem_ofFn, read]
    rfl

/-- Exactly 64 hexadecimal digits. -/
def HexText (hex : List UInt8) : Prop :=
  hex.length = 64 ∧ ∀ c ∈ hex, (hexDigit c).isSome = true

/-- The text is accepted if it is hexadecimal and only then, and the key read from it is written as
the same text in lower case. -/
def ReadExactly (hex : List UInt8) : Prop :=
  ((∃ psk, parsePskHex hex = .ok psk) ↔ HexText hex) ∧
    ∀ psk, parsePskHex hex = .ok psk → pskToHex psk = hex.map asciiToLower

/-- Every pair ends with a digit and begins with one, or with white space or a sign; and some pair
begins with white space or a sign. -/
def HasSkippedCharacter (hex : List UInt8) : Prop :=
  hex.length = 64 ∧
    (∀ i < 32, (hexDigit (hex.getD (2 * i + 1) 0)).isSome = true ∧
      ((hexDigit (hex.getD (2 * i) 0)).isSome = true ∨ skipped (hex.getD (2 * i) 0) = true)) ∧
    ∃ i < 32, skipped (hex.getD (2 * i) 0) = true

lemma pskToHex_of_digits {hex : List UInt8} {psk : Psk} (parsed : parsePskHex hex = .ok psk)
    (digits : ∀ i < 32, (hexDigit (hex.getD (2 * i) 0)).isSome = true) :
    pskToHex psk = hex.map asciiToLower := by
  obtain ⟨length, pairs⟩ := (parsePskHex_ok_iff _ _).mp parsed
  have lowered : ∀ n < 64, (hex.map asciiToLower).getD n 0 = asciiToLower (hex.getD n 0) :=
    fun n inside => by
      rw [List.getD_eq_getElem _ _ (by rw [List.length_map]; omega), List.getElem_map,
        List.getD_eq_getElem _ _ (by omega)]
  apply eq_of_pairs (length_pskToHex psk) ((List.length_map _).trans length)
  intro i inside
  obtain ⟨even, odd⟩ := getD_pskToHex psk i inside
  have text := byteToHex_of_digits (digits i inside) (pairs i inside)
  obtain ⟨front, back⟩ := List.cons.inj text
  rw [even, odd, lowered _ (by omega), lowered _ (by omega)]
  exact ⟨front, (List.cons.inj back).1⟩

/-- A written key is read back. A text is treated as the format asks for unless white space or a
sign stands in front of a digit in a text that would be hexadecimal otherwise. -/
theorem psk_hex_codec_iff (psk : Psk) (hex : List UInt8) :
    parsePskHex (pskToHex psk) = .ok psk ∧ (ReadExactly hex ↔ ¬ HasSkippedCharacter hex) := by
  refine ⟨parsePskHex_pskToHex psk, ?_, ?_⟩
  · rintro ⟨accepts, -⟩ ⟨length, pairs, i, inside, isSkipped⟩
    obtain ⟨-, digits⟩ := accepts.mp ((parsePskHex_accepts_iff hex).mpr ⟨length, pairs⟩)
    have digit := ((forall_pairs length).mp digits i inside).1
    rw [hexDigit_skipped _ isSkipped] at digit
    cases digit
  · intro clean
    have digits : (∃ psk, parsePskHex hex = .ok psk) →
        ∀ i < 32, (hexDigit (hex.getD (2 * i) 0)).isSome = true := by
      intro accepted i inside
      obtain ⟨length, pairs⟩ := (parsePskHex_accepts_iff hex).mp accepted
      rcases (pairs i inside).2 with digit | isSkipped
      · exact digit
      · exact absurd ⟨length, pairs, i, inside, isSkipped⟩ clean
    refine ⟨⟨fun accepted => ?_, fun text => ?_⟩, fun psk parsed =>
      pskToHex_of_digits parsed (digits ⟨psk, parsed⟩)⟩
    · obtain ⟨length, pairs⟩ := (parsePskHex_accepts_iff hex).mp accepted
      refine ⟨length, (forall_pairs length).mpr fun i inside => ?_⟩
      exact ⟨digits accepted i inside, (pairs i inside).1⟩
    · apply (parsePskHex_accepts_iff hex).mpr
      refine ⟨text.1, fun i inside => ?_⟩
      obtain ⟨even, odd⟩ := (forall_pairs text.1).mp text.2 i inside
      exact ⟨odd, .inl even⟩

/-- `+1` and 62 zeros. -/
def signedText : List UInt8 := 0x2b :: 0x31 :: List.replicate 62 0x30

/-- It is read as the key of a one and 31 zeros. -/
theorem signed_text_is_accepted :
    (∃ psk, parsePskHex signedText = .ok psk ∧
      pskToHex psk = 0x30 :: 0x31 :: List.replicate 62 0x30) ∧ ¬ HexText signedText := by
  constructor
  · refine ⟨.ofFn fun i => if i = 0 then 1 else 0, ?_, by decide⟩
    exact (parsePskHex_ok_iff _ _).mpr ⟨rfl, by decide⟩
  · rintro ⟨-, digits⟩
    exact absurd (digits 0x2b List.mem_cons_self) (by decide)

end GoodixSpi.Driver
